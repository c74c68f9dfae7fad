/-!
# UTF-8

One scalar value at a time: `encode` writes it as one to four bytes, `next?` reads one from the
front of a byte list.  Reading accepts the shortest form only and refuses surrogates and values
beyond U+10FFFF, so `next?` undoes `encode` and nothing else.
-/

namespace Intake.Utf8

/-- The bytes of one scalar value. -/
def encode (c : Char) : List UInt8 :=
  let n := c.toNat
  if n < 0x80 then [n.toUInt8]
  else if n < 0x800 then [(0xC0 + n / 0x40).toUInt8, (0x80 + n % 0x40).toUInt8]
  else if n < 0x10000 then
    [(0xE0 + n / 0x1000).toUInt8, (0x80 + n / 0x40 % 0x40).toUInt8, (0x80 + n % 0x40).toUInt8]
  else
    [(0xF0 + n / 0x40000).toUInt8, (0x80 + n / 0x1000 % 0x40).toUInt8,
      (0x80 + n / 0x40 % 0x40).toUInt8, (0x80 + n % 0x40).toUInt8]

/-- The bytes of a text. -/
def ofString (s : String) : List UInt8 :=
  s.toList.flatMap encode

/-- The six payload bits of a continuation byte. -/
def tail? (b : UInt8) : Option Nat :=
  if 0x80 ≤ b.toNat ∧ b.toNat < 0xC0 then some (b.toNat - 0x80) else none

/-- The scalar value at the front and the bytes after it. -/
def next? : List UInt8 → Option (Char × List UInt8)
  | [] => none
  | b :: rest =>
    let lead := b.toNat
    if lead < 0x80 then some (Char.ofNat lead, rest)
    else if lead < 0xC2 then none
    else if lead < 0xE0 then
      match rest with
      | b₁ :: rest => do
        let x ← tail? b₁
        some (Char.ofNat ((lead - 0xC0) * 0x40 + x), rest)
      | _ => none
    else if lead < 0xF0 then
      match rest with
      | b₁ :: b₂ :: rest => do
        let x ← tail? b₁
        let y ← tail? b₂
        let n := (lead - 0xE0) * 0x1000 + x * 0x40 + y
        if n < 0x800 ∨ (0xD800 ≤ n ∧ n < 0xE000) then none else some (Char.ofNat n, rest)
      | _ => none
    else if lead < 0xF5 then
      match rest with
      | b₁ :: b₂ :: b₃ :: rest => do
        let x ← tail? b₁
        let y ← tail? b₂
        let z ← tail? b₃
        let n := (lead - 0xF0) * 0x40000 + x * 0x1000 + y * 0x40 + z
        if n < 0x10000 ∨ 0x110000 ≤ n then none else some (Char.ofNat n, rest)
      | _ => none
    else none

theorem toNat_toUInt8 {n : Nat} (h : n < 0x100) : n.toUInt8.toNat = n := by
  simp [Nat.mod_eq_of_lt h]

/-- A continuation byte gives back its payload. -/
theorem tail?_toUInt8 {n : Nat} (h : n < 0x40) : tail? (0x80 + n).toUInt8 = some n := by
  rw [tail?, toNat_toUInt8 (by omega), if_pos (by omega)]
  simp

theorem tail?_toUInt8_bind {α : Type} {n : Nat} (h : n < 0x40) (read : Nat → Option α) :
    (tail? (0x80 + n).toUInt8 >>= read) = read n := by
  rw [tail?_toUInt8 h]
  rfl

/-- Reading undoes writing, whatever follows. -/
theorem next?_encode (c : Char) (rest : List UInt8) :
    next? (encode c ++ rest) = some (c, rest) := by
  have valid : c.toNat < 0xD800 ∨ (0xDFFF < c.toNat ∧ c.toNat < 0x110000) := c.valid
  have back : Char.ofNat c.toNat = c := Char.ofNat_toNat c
  unfold encode
  dsimp only
  generalize c.toNat = n at valid back ⊢
  subst back
  -- The payloads are bound one by one: reducing them all at once makes the kernel compare `n` with
  -- the bounds of its length.
  split
  · simp only [List.cons_append, List.nil_append, next?]
    rw [toNat_toUInt8 (by omega), if_pos (by omega)]
  · split
    · have payload : (0xC0 + n / 0x40 - 0xC0) * 0x40 + n % 0x40 = n := by omega
      simp only [List.cons_append, List.nil_append, next?]
      rw [toNat_toUInt8 (by omega), if_neg (by omega), if_neg (by omega), if_pos (by omega),
        tail?_toUInt8_bind (by omega), payload]
    · split
      · have payload : (0xE0 + n / 0x1000 - 0xE0) * 0x1000 + n / 0x40 % 0x40 * 0x40 + n % 0x40 =
            n := by omega
        simp only [List.cons_append, List.nil_append, next?]
        rw [toNat_toUInt8 (by omega), if_neg (by omega), if_neg (by omega), if_neg (by omega),
          if_pos (by omega), tail?_toUInt8_bind (by omega), tail?_toUInt8_bind (by omega), payload,
          if_neg (by omega)]
      · have payload : (0xF0 + n / 0x40000 - 0xF0) * 0x40000 + n / 0x1000 % 0x40 * 0x1000 +
            n / 0x40 % 0x40 * 0x40 + n % 0x40 = n := by omega
        simp only [List.cons_append, List.nil_append, next?]
        rw [toNat_toUInt8 (by omega), if_neg (by omega), if_neg (by omega), if_neg (by omega),
          if_neg (by omega), if_pos (by omega), tail?_toUInt8_bind (by omega),
          tail?_toUInt8_bind (by omega), tail?_toUInt8_bind (by omega), payload,
          if_neg (by omega)]

/-- Reads a whole byte list as text, with the number of bytes as the bound on the steps. -/
def decodeWithin : Nat → List Char → List UInt8 → Option (List Char)
  | _, read, [] => some read.reverse
  | 0, _, _ :: _ => none
  | bound + 1, read, b :: rest =>
    match next? (b :: rest) with
    | some (c, rest) => decodeWithin bound (c :: read) rest
    | none => none

/-- The text that a byte list spells, if it is UTF-8. -/
def toString? (bytes : List UInt8) : Option String :=
  (decodeWithin bytes.length [] bytes).map String.ofList

end Intake.Utf8
