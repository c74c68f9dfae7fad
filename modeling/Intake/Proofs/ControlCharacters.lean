import Intake.Idna.Domain
import Intake.Proofs.LetterCase

/-!
# What the ASCII form of a domain keeps

Control characters and the space are neither mapped nor put together with other characters, and they
stand in the ASCII part of any label.  Whichever of them a domain has, its ASCII form has as well.
-/

namespace Intake

/-- An ASCII control character or the space: what ends a line or a word wherever it is written. -/
def Breaks (c : Char) : Prop :=
  c.toNat ≤ 0x20 ∨ c.toNat = 0x7F

instance : DecidablePred Breaks :=
  fun c => inferInstanceAs (Decidable (c.toNat ≤ 0x20 ∨ c.toNat = 0x7F))

theorem Breaks.lt {c : Char} (breaks : Breaks c) : c.toNat < 0x80 := by
  unfold Breaks at breaks
  omega

namespace Text

/-! ## The table of pairs -/

theorem rankBetween_le (keys : Array Nat) (n low high : Nat) (ordered : low ≤ high) :
    rankBetween keys n low high ≤ high := by
  fun_induction rankBetween keys n low high with
  | case1 low high lt middle _ ih => exact ih (by omega)
  | case2 low high lt middle _ ih => exact Nat.le_trans (ih (by omega)) (by omega)
  | case3 low high _ => exact ordered

/-- A pair that the table does not list is not written as one character. -/
theorem PairMap.find?_eq_none {table : PairMap} {a b : Char}
    (absent : PairMap.key a.toNat b.toNat ∉ table.keys) : table.find? a b = none := by
  have within := rankBetween_le table.keys (PairMap.key a.toNat b.toNat) 0 table.keys.size
    (Nat.zero_le _)
  unfold PairMap.find?
  dsimp only
  split
  · rfl
  · next n found =>
    rw [← rank, found] at within
    refine if_neg fun equal => absent ?_
    rw [← equal, Array.getD_eq_getD_getElem?, Array.getElem?_eq_getElem (by omega)]
    exact Array.getElem_mem _

/-- A word lists a pair of characters, neither of which is a control character. -/
def Word.listsOthers (w : Word) : Bool :=
  let m := w.numbers.getD 0 0
  let n := w.numbers.getD 1 0
  0x20 < m && m != 0x7F && 0x7F < n && n < 0x200000

theorem key_not_mem_of_listsOthers {s : List Char}
    (listed : (Word.collect [] ⟨none, [], []⟩ s).all Word.listsOthers = true) {a b : Char}
    (breaks : Breaks a ∨ Breaks b) :
    PairMap.key a.toNat b.toNat ∉ (PairMap.ofText (String.ofList s)).keys := by
  have a_lt : a.toNat < 0x110000 := by
    have valid : a.toNat < 0xD800 ∨ (0xDFFF < a.toNat ∧ a.toNat < 0x110000) := a.valid
    omega
  have b_lt : b.toNat < 0x110000 := by
    have valid : b.toNat < 0xD800 ∨ (0xDFFF < b.toNat ∧ b.toNat < 0x110000) := b.valid
    omega
  intro mem
  simp only [PairMap.ofText, Word.ofText, String.toList_ofList, List.mem_toArray, List.mem_map]
    at mem
  obtain ⟨w, w_mem, same⟩ := mem
  have others := List.all_eq_true.mp listed w w_mem
  simp only [Word.listsOthers, Bool.and_eq_true, decide_eq_true_eq, bne_iff_ne] at others
  simp only [PairMap.key] at same
  unfold Breaks at breaks
  omega

set_option maxRecDepth 100000 in
theorem compositions_find?_eq_none {a b : Char} (breaks : Breaks a ∨ Breaks b) :
    compositions.find? a b = none := by
  apply PairMap.find?_eq_none
  apply key_not_mem_of_listsOthers _ breaks
  decide +kernel

/-! ## Normalization -/

theorem Hangul.join?_eq_none {a b : Char} (breaks : Breaks a ∨ Breaks b) : join? a b = none := by
  have syllable : firstSyllable = 0xAC00 := rfl
  have lead : firstLead = 0x1100 := rfl
  have vowel : firstVowel = 0x1161 := rfl
  have trail : noTrail = 0x11A7 := rfl
  unfold Breaks at breaks
  simp only [join?, index?]
  rw [if_neg (by omega)]
  split
  · next found =>
    split at found
    · exact if_neg (by omega)
    · exact nomatch found
  · rfl

/-- Neither of two characters that are put together is a control character. -/
theorem compose?_eq_none {a b : Char} (breaks : Breaks a ∨ Breaks b) : compose? a b = none := by
  rw [compose?, Hangul.join?_eq_none breaks, composition?, compositions_find?_eq_none breaks]
  rfl

theorem mem_insertMark {c d : Char} {k : Nat} {s : List Char} :
    d ∈ insertMark c k s ↔ d = c ∨ d ∈ s := by
  induction s with
  | nil => simp [insertMark]
  | cons e s ih =>
      simp only [insertMark]
      split
      · rw [List.mem_cons, ih, List.mem_cons]
        exact or_left_comm
      · exact List.mem_cons

theorem mem_reorder {d : Char} {read s : List Char} :
    d ∈ reorder read s ↔ d ∈ read ∨ d ∈ s := by
  induction s generalizing read with
  | nil => simp [reorder]
  | cons c s ih =>
      simp only [reorder, ih]
      split
      · simp only [List.mem_cons]
        rw [or_assoc, or_left_comm]
      · simp only [mem_insertMark, List.mem_cons]
        rw [or_assoc, or_left_comm]

/-- What becomes of a character after a base: it is put together with the base, it is the next base,
or it is one more mark. -/
theorem composeFrom_cons (done : List Char) (base : Char) (marks : List Char) (c : Char)
    (s : List Char) :
    (∃ joined, compose? base c = some joined ∧
      composeFrom done base marks (c :: s) = composeFrom done joined marks s) ∨
    composeFrom done base marks (c :: s) = composeFrom (marks ++ base :: done) c [] s ∨
    composeFrom done base marks (c :: s) = composeFrom done base (c :: marks) s := by
  generalize becomes : composeFrom done base marks (c :: s) = result
  unfold composeFrom at becomes
  dsimp only at becomes
  subst becomes
  split
  · next joined chosen =>
    exact .inl ⟨joined, (Option.ite_none_left_eq_some.mp chosen).2, rfl⟩
  · right
    split
    · exact .inl rfl
    · exact .inr rfl

/-- No control character is lost in what follows the first base. -/
theorem mem_composeFrom {d base : Char} (breaks : Breaks d) {done marks s : List Char}
    (mem : d ∈ marks ++ base :: done ∨ d ∈ s) : d ∈ composeFrom done base marks s := by
  induction s generalizing done base marks with
  | nil =>
      rw [composeFrom, List.mem_reverse]
      exact mem.resolve_right List.not_mem_nil
  | cons c s ih =>
      simp only [List.mem_append, List.mem_cons] at mem
      obtain ⟨joined, composed, step⟩ | step | step := composeFrom_cons done base marks c s
      · -- Neither of the two characters that are put together is the one in question.
        have not_base : d ≠ base := by
          rintro rfl
          exact nomatch (compose?_eq_none (.inl breaks)).symm.trans composed
        have not_mark : d ≠ c := by
          rintro rfl
          exact nomatch (compose?_eq_none (.inr breaks)).symm.trans composed
        rw [step]
        apply ih
        simp only [List.mem_append, List.mem_cons]
        grind
      · rw [step]
        apply ih
        simp only [List.mem_append, List.mem_cons]
        grind
      · rw [step]
        apply ih
        simp only [List.mem_append, List.mem_cons]
        grind

theorem mem_composeAll {d : Char} (breaks : Breaks d) {done s : List Char}
    (mem : d ∈ done ∨ d ∈ s) : d ∈ composeAll done s := by
  induction s generalizing done with
  | nil =>
      rw [composeAll, List.mem_reverse]
      exact mem.resolve_right List.not_mem_nil
  | cons c s ih =>
      simp only [composeAll]
      rw [List.mem_cons, ← or_assoc, or_comm (a := d ∈ done), ← List.mem_cons] at mem
      split
      · exact mem_composeFrom breaks mem
      · exact ih mem

theorem mem_normalize {c : Char} (breaks : Breaks c) {s : List Char} (mem : c ∈ s) :
    c ∈ normalize s := by
  have lt := breaks.lt
  have whole : decompose c = [c] := if_pos (by omega)
  refine mem_composeAll breaks (.inr (mem_reorder.mpr (.inr ?_)))
  exact List.mem_flatMap.mpr ⟨c, mem, whole ▸ List.mem_singleton_self c⟩

/-! ## Pieces -/

theorem mem_join {separator c : Char} {pieces : List (List Char)} {piece : List Char}
    (piece_mem : piece ∈ pieces) (mem : c ∈ piece) : c ∈ join separator pieces := by
  induction pieces with
  | nil => simp at piece_mem
  | cons first pieces ih =>
      cases pieces with
      | nil =>
          obtain rfl := List.mem_singleton.mp piece_mem
          exact mem
      | cons second pieces =>
          rw [join]
          · rcases List.mem_cons.mp piece_mem with rfl | later
            · exact List.mem_append_left _ mem
            · exact List.mem_append_right _ (List.mem_cons_of_mem _ (ih later))
          · simp

/-- A character of a text is the separator or stands in one of the pieces. -/
theorem exists_field_of_mem {separator c : Char} {s : List Char} (mem : c ∈ s)
    (ne : c ≠ separator) : ∃ piece ∈ fields separator s, c ∈ piece := by
  induction s with
  | nil => simp at mem
  | cons d s ih =>
      simp only [fields]
      split
      · next separates =>
        have later : c ∈ s := (List.mem_cons.mp mem).resolve_left (separates ▸ ne)
        obtain ⟨piece, piece_mem, c_mem⟩ := ih later
        exact ⟨piece, List.mem_cons_of_mem _ piece_mem, c_mem⟩
      · split
        · next none_left => exact absurd none_left (fields_ne_nil separator s)
        · next first pieces cut =>
          rcases List.mem_cons.mp mem with rfl | later
          · exact ⟨c :: first, List.mem_cons_self, List.mem_cons_self⟩
          · obtain ⟨piece, piece_mem, c_mem⟩ := ih later
            rw [cut] at piece_mem
            rcases List.mem_cons.mp piece_mem with rfl | other
            · exact ⟨d :: piece, List.mem_cons_self, List.mem_cons_of_mem d c_mem⟩
            · exact ⟨piece, List.mem_cons_of_mem _ other, c_mem⟩

end Text

/-! ## The ASCII form -/

namespace Idna

theorem exists_mem_of_mapM {α β : Type} {f : α → Option β} {xs : List α} {ys : List β}
    (mapped : xs.mapM f = some ys) {x : α} (mem : x ∈ xs) : ∃ y ∈ ys, f x = some y := by
  induction xs generalizing ys with
  | nil => simp at mem
  | cons first xs ih =>
      rw [List.mapM_cons] at mapped
      obtain ⟨y, first_mapped, mapped⟩ := Option.bind_eq_some_iff.mp mapped
      obtain ⟨rest, rest_mapped, equal⟩ := Option.bind_eq_some_iff.mp mapped
      obtain rfl := Option.some.inj equal
      rcases List.mem_cons.mp mem with rfl | later
      · exact ⟨y, List.mem_cons_self, first_mapped⟩
      · obtain ⟨z, z_mem, z_mapped⟩ := ih rest_mapped later
        exact ⟨z, List.mem_cons_of_mem y z_mem, z_mapped⟩

theorem toLower_of_breaks {c : Char} (breaks : Breaks c) : c.toLower = c := by
  apply Text.toLower_of_not_isUpper
  rw [Text.isUpper_iff]
  unfold Breaks at breaks
  omega

theorem mem_mapText {c : Char} (breaks : Breaks c) {domain mapped : List Char}
    (mapped_eq : mapText domain = some mapped) (mem : c ∈ domain) : c ∈ mapped := by
  obtain ⟨images, mapped_chars, rfl⟩ := Option.map_eq_some_iff.mp mapped_eq
  obtain ⟨image, image_mem, image_eq⟩ := exists_mem_of_mapM mapped_chars mem
  have ascii : isAscii c = true := decide_eq_true breaks.lt
  rw [mapChar, if_pos ascii, toLower_of_breaks breaks, Option.some.injEq] at image_eq
  subst image_eq
  exact List.mem_flatten.mpr ⟨_, image_mem, List.mem_singleton_self c⟩

/-- The ASCII characters of a label stand in its form in Punycode. -/
theorem mem_encode {c : Char} (ascii : c.toNat < 0x80) {s : List Char} (mem : c ∈ s) :
    c ∈ Punycode.encode s := by
  have basic_mem : c ∈ s.filter (·.toNat < 0x80) :=
    List.mem_filter.mpr ⟨mem, decide_eq_true ascii⟩
  have some_basic : ¬ (s.filter (·.toNat < 0x80)).isEmpty = true := by
    rw [List.isEmpty_iff]
    exact List.ne_nil_of_mem basic_mem
  simp only [Punycode.encode]
  rw [if_neg some_basic]
  exact List.mem_append_left _ basic_mem

/-- The ASCII characters of a label stand in its ASCII form. -/
theorem Label.mem_ascii {s : List Char} {label : Label} (made : ofMapped s = some label) {c : Char}
    (ascii : c.toNat < 0x80) (mem : c ∈ s) : c ∈ label.ascii := by
  unfold ofMapped at made
  split at made
  · split at made
    · exact nomatch made
    · obtain ⟨shown, -, made⟩ := Option.bind_eq_some_iff.mp made
      split at made
      · obtain rfl := Option.some.inj made
        exact mem
      · exact nomatch made
  · split at made
    · obtain rfl := Option.some.inj made
      exact mem
    · split at made
      · obtain rfl := Option.some.inj made
        exact List.mem_append_right _ (mem_encode ascii mem)
      · exact nomatch made

/-- A control character of a domain stands in the ASCII form of the domain. -/
theorem mem_of_toAscii?_eq_some {c : Char} (breaks : Breaks c) {domain host : List Char}
    (made : toAscii? domain = some host) (mem : c ∈ domain) : c ∈ host := by
  obtain ⟨mapped, mapped_eq, made⟩ := Option.bind_eq_some_iff.mp made
  obtain ⟨labels, labels_eq, made⟩ := Option.bind_eq_some_iff.mp made
  dsimp only at made
  split at made
  · exact nomatch made
  · obtain rfl := Option.some.inj made
    have no_point : c ≠ '.' := by
      rintro rfl
      exact absurd breaks (by decide)
    have normalized_mem := Text.mem_normalize breaks (mem_mapText breaks mapped_eq mem)
    obtain ⟨piece, piece_mem, c_mem⟩ := Text.exists_field_of_mem normalized_mem no_point
    obtain ⟨label, label_mem, label_eq⟩ := exists_mem_of_mapM labels_eq piece_mem
    exact Text.mem_join (List.mem_map_of_mem label_mem) (label.mem_ascii label_eq breaks.lt c_mem)

end Idna

end Intake
