import Intake.Json.Value
import Intake.Names
import Mathlib.Data.List.Sort

/-!
# The members of objects

An object is a finite map: its members stand in ascending order of their names, and two objects
that bind the same names to the same values are the same.  Inserting keeps the order, and dropping
members by name changes what is bound to the dropped names only.
-/

namespace Intake.Json

namespace Members

/-- The members stand in ascending order of their names, so that no name is bound twice. -/
def Ascending (members : Members) : Prop :=
  members.Pairwise fun left right => left.1 < right.1

instance (members : Members) : Decidable (Ascending members) :=
  inferInstanceAs (Decidable (List.Pairwise _ members))

theorem ascending_iff {members : Members} :
    Ascending members ↔ (members.map Prod.fst).Pairwise (· < ·) :=
  List.pairwise_map.symm

/-! ## Lookup and membership -/

theorem mem_of_get? {name : String} {value : Json} {members : Members}
    (found : get? name members = some value) : (name, value) ∈ members := by
  induction members with
  | nil => simp [get?] at found
  | cons member rest ih =>
      obtain ⟨key, bound⟩ := member
      simp only [get?] at found
      split at found
      · next key_eq =>
        obtain rfl := Option.some.inj found
        exact key_eq ▸ List.mem_cons_self
      · exact List.mem_cons_of_mem _ (ih found)

theorem get?_isSome_iff {name : String} {members : Members} :
    (get? name members).isSome ↔ name ∈ members.map Prod.fst := by
  induction members with
  | nil => simp [get?]
  | cons member rest ih =>
      obtain ⟨key, bound⟩ := member
      simp only [get?, List.map_cons, List.mem_cons]
      split
      · next key_eq => simp [key_eq]
      · next key_ne => simp [ih, Ne.symm key_ne]

theorem get?_eq_none_iff {name : String} {members : Members} :
    get? name members = none ↔ name ∉ members.map Prod.fst := by
  rw [← get?_isSome_iff, Option.not_isSome_iff_eq_none]

/-- Where no name is bound twice, the member itself is what is found under its name. -/
theorem get?_of_mem_of_nodup {members : Members} (nodup : (members.map Prod.fst).Nodup)
    {name : String} {value : Json} (mem : (name, value) ∈ members) :
    get? name members = some value := by
  induction members with
  | nil => simp at mem
  | cons member rest ih =>
      obtain ⟨key, bound⟩ := member
      obtain ⟨key_not_mem, rest_nodup⟩ := List.nodup_cons.mp nodup
      simp only [get?]
      rcases List.mem_cons.mp mem with head | mem
      · obtain ⟨rfl, rfl⟩ := Prod.mk.inj head
        exact if_pos rfl
      · have key_ne : key ≠ name := by
          rintro rfl
          exact key_not_mem (List.mem_map.mpr ⟨_, mem, rfl⟩)
        rw [if_neg key_ne]
        exact ih rest_nodup mem

theorem Ascending.nodup {members : Members} (ascending : Ascending members) :
    (members.map Prod.fst).Nodup :=
  (ascending_iff.mp ascending).imp String.ne_of_lt

theorem Ascending.get?_of_mem {members : Members} (ascending : Ascending members)
    {name : String} {value : Json} (mem : (name, value) ∈ members) :
    get? name members = some value :=
  get?_of_mem_of_nodup ascending.nodup mem

theorem Ascending.mem_iff_get? {members : Members} (ascending : Ascending members)
    {name : String} {value : Json} :
    (name, value) ∈ members ↔ get? name members = some value :=
  ⟨ascending.get?_of_mem, mem_of_get?⟩

/-- The order leaves no choice: objects with the same members are the same. -/
theorem Ascending.eq_of_mem_iff {left right : Members} (left_ascending : Ascending left)
    (right_ascending : Ascending right) (same : ∀ member, member ∈ left ↔ member ∈ right) :
    left = right := by
  have asymm : Std.Asymm fun left right : String × Json => left.1 < right.1 :=
    ⟨fun _ _ lt => String.lt_asymm lt⟩
  exact List.Pairwise.eq_of_mem_iff left_ascending right_ascending same

/-- Objects that bind the same names to the same values are the same. -/
theorem Ascending.ext {left right : Members} (left_ascending : Ascending left)
    (right_ascending : Ascending right)
    (agree : ∀ name, get? name left = get? name right) : left = right := by
  apply left_ascending.eq_of_mem_iff right_ascending
  rintro ⟨name, value⟩
  rw [left_ascending.mem_iff_get?, right_ascending.mem_iff_get?, agree]

/-! ## Binding names -/

theorem mem_insertNew {name : String} {value : Json} {member : String × Json} {members : Members}
    (mem : member ∈ insertNew name value members) : member = (name, value) ∨ member ∈ members := by
  induction members with
  | nil => exact .inl (List.mem_singleton.mp mem)
  | cons head rest ih =>
      obtain ⟨key, old⟩ := head
      simp only [insertNew] at mem
      split at mem
      · exact List.mem_cons.mp mem
      · split at mem
        · exact .inr mem
        · rcases List.mem_cons.mp mem with rfl | mem
          · exact .inr List.mem_cons_self
          · exact (ih mem).imp_right (List.mem_cons_of_mem _)

theorem Ascending.insertNew (name : String) (value : Json) {members : Members}
    (ascending : Ascending members) : Ascending (members.insertNew name value) := by
  induction members with
  | nil => exact List.pairwise_singleton _ _
  | cons head rest ih =>
      obtain ⟨key, old⟩ := head
      obtain ⟨key_lt, rest_ascending⟩ := List.pairwise_cons.mp ascending
      simp only [Members.insertNew]
      split
      · next name_lt =>
        refine List.Pairwise.cons ?_ ascending
        rintro member (_ | ⟨_, mem⟩)
        · exact name_lt
        · exact String.lt_trans name_lt (key_lt member mem)
      · next not_lt =>
        split
        · exact ascending
        · next ne =>
          refine List.Pairwise.cons ?_ (ih rest_ascending)
          intro member mem
          rcases mem_insertNew mem with rfl | mem
          · exact Names.lt_of_not_lt_of_ne not_lt ne
          · exact key_lt member mem

/-- A new binding is found unless the name was bound already, and disturbs no other. -/
theorem Ascending.get?_insertNew (name : String) (value : Json) {members : Members}
    (ascending : Ascending members) (other : String) :
    get? other (members.insertNew name value) =
      (get? other members).or (if name = other then some value else none) := by
  induction members with
  | nil => simp [Members.insertNew, get?]
  | cons head rest ih =>
      obtain ⟨key, old⟩ := head
      obtain ⟨key_lt, rest_ascending⟩ := List.pairwise_cons.mp ascending
      simp only [Members.insertNew]
      split
      · next name_lt =>
        -- A name below the first one is not bound.
        have unbound : get? name ((key, old) :: rest) = none := by
          rw [get?_eq_none_iff]
          rintro mem
          obtain ⟨member, member_mem, rfl⟩ := List.mem_map.mp mem
          rcases List.mem_cons.mp member_mem with rfl | member_mem
          · exact String.lt_irrefl _ name_lt
          · exact String.lt_asymm name_lt (key_lt member member_mem)
        by_cases name_eq : name = other
        · subst name_eq
          rw [unbound]
          simp [get?]
        · conv => lhs; rw [get?]
          simp [name_eq]
      · split
        · next _ name_eq =>
          subst name_eq
          by_cases name_eq : name = other
          · simp [get?, name_eq]
          · simp [name_eq]
        · next ne =>
          by_cases key_eq : key = other
          · simp [get?, key_eq]
          · simp [get?, key_eq, ih rest_ascending]

theorem ascending_foldl_insertNew (bindings : List (String × Json)) {members : Members}
    (ascending : Ascending members) :
    Ascending (bindings.foldl (fun members binding =>
      insertNew binding.1 binding.2 members) members) := by
  induction bindings generalizing members with
  | nil => exact ascending
  | cons binding bindings ih => exact ih (ascending.insertNew binding.1 binding.2)

/-- Bindings in any order make an object. -/
theorem ascending_ofReversed (bindings : List (String × Json)) :
    Ascending (ofReversed bindings) :=
  ascending_foldl_insertNew bindings List.Pairwise.nil

theorem get?_foldl_insertNew (bindings : List (String × Json)) {members : Members}
    (ascending : Ascending members) (name : String) :
    get? name (bindings.foldl (fun members binding =>
      insertNew binding.1 binding.2 members) members) =
      (get? name members).or (get? name bindings) := by
  induction bindings generalizing members with
  | nil => simp [get?]
  | cons binding bindings ih =>
      rw [List.foldl_cons, ih (ascending.insertNew binding.1 binding.2),
        ascending.get?_insertNew, Option.or_assoc, get?]
      split
      · simp
      · simp

/-- Of the bindings of a name the last one stands. -/
theorem get?_ofReversed (bindings : List (String × Json)) (name : String) :
    get? name (ofReversed bindings) = get? name bindings := by
  rw [ofReversed, get?_foldl_insertNew bindings List.Pairwise.nil]
  simp [get?]

theorem mem_of_mem_ofReversed {bindings : List (String × Json)} {member : String × Json}
    (mem : member ∈ ofReversed bindings) : member ∈ bindings := by
  apply mem_of_get?
  rw [← get?_ofReversed]
  exact (ascending_ofReversed bindings).get?_of_mem mem

theorem get?_ofList (bindings : List (String × Json)) (name : String) :
    get? name (ofList bindings) = get? name bindings.reverse :=
  get?_ofReversed bindings.reverse name

/-- Bindings that are made name by name bind these names and no others. -/
theorem get?_map (value : String → Json) (names : List String) (name : String) :
    get? name (names.map fun key => (key, value key)) =
      if name ∈ names then some (value name) else none := by
  induction names with
  | nil => simp [get?]
  | cons key names ih =>
      simp only [List.map_cons, get?, ih, List.mem_cons]
      by_cases key_eq : key = name
      · simp [key_eq]
      · simp [key_eq, Ne.symm key_eq]

/-- An object is determined by what each name is bound to first. -/
theorem Ascending.ofReversed_eq {bindings : List (String × Json)} {members : Members}
    (ascending : Ascending members) (agree : ∀ name, get? name members = get? name bindings) :
    ofReversed bindings = members := by
  apply (ascending_ofReversed bindings).ext ascending
  intro name
  rw [get?_ofReversed, agree]

/-- Where no name is bound twice, the first binding of a name is the last one. -/
theorem get?_reverse {bindings : List (String × Json)} (nodup : (bindings.map Prod.fst).Nodup)
    (name : String) : get? name bindings.reverse = get? name bindings := by
  have reverse_nodup : (bindings.reverse.map Prod.fst).Nodup := by
    rw [List.map_reverse, List.nodup_reverse]
    exact nodup
  ext value
  constructor
  · intro found
    exact get?_of_mem_of_nodup nodup (List.mem_reverse.mp (mem_of_get? found))
  · intro found
    exact get?_of_mem_of_nodup reverse_nodup (List.mem_reverse.mpr (mem_of_get? found))

/-- Bindings that ascend already stand as they are. -/
theorem Ascending.ofList_eq {members : Members} (ascending : Ascending members) :
    ofList members = members :=
  ascending.ofReversed_eq fun name => (get?_reverse ascending.nodup name).symm

/-! ## Keeping members by name -/

theorem get?_keep (kept : String → Bool) (members : Members) (name : String) :
    get? name (members.keep kept) = if kept name then get? name members else none := by
  induction members with
  | nil => simp [keep, get?]
  | cons member rest ih =>
      obtain ⟨key, bound⟩ := member
      simp only [keep, List.filter_cons] at ih ⊢
      by_cases key_eq : key = name
      · subst key_eq
        cases key_kept : kept key with
        | true => simp [get?]
        | false => simp [ih, key_kept]
      · cases key_kept : kept key with
        | true => simp [get?, key_eq, ih]
        | false => simp [get?, key_eq, ih]

theorem kept_of_mem_keep {kept : String → Bool} {members : Members} {name : String}
    (mem : name ∈ (members.keep kept).map Prod.fst) : kept name = true := by
  obtain ⟨member, member_mem, rfl⟩ := List.mem_map.mp mem
  exact (List.mem_filter.mp member_mem).2

theorem Ascending.keep {members : Members} (ascending : Ascending members)
    (kept : String → Bool) : Ascending (members.keep kept) :=
  List.Pairwise.filter _ ascending

end Members

end Intake.Json
