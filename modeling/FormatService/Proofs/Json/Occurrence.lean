import FormatService.Json.Value

/-!
# What stands in a value

A value holds itself, what its items hold and what its members hold. All of its numbers can be
represented if each number that stands somewhere in it can.
-/

set_option autoImplicit false

namespace FormatService.Json.Value

/-- The first value stands somewhere in the second one. -/
inductive Occurs : Value → Value → Prop
  | here {v : Value} : Occurs v v
  | item {v w : Value} {items : List Value} (mem : w ∈ items) (inside : Occurs v w) :
    Occurs v (.array items)
  | member {v w : Value} {name : String} {members : List (String × Value)}
    (mem : (name, w) ∈ members) (inside : Occurs v w) : Occurs v (.object members)

def Unrepeated (v : Value) : Prop :=
  ∀ members, Occurs (.object members) v → (members.map Prod.fst).Nodup

theorem unrepeated_string (s : String) : (string s).Unrepeated := by
  rintro members ⟨⟩

theorem unrepeated_array_iff {items : List Value} :
    (array items).Unrepeated ↔ ∀ v ∈ items, v.Unrepeated := by
  constructor
  · intro once v mem members inside
    exact once members (.item mem inside)
  · intro each members inside
    cases inside with
    | item mem inside => exact each _ mem members inside

theorem unrepeated_object_iff {members : List (String × Value)} : (object members).Unrepeated ↔
    (members.map Prod.fst).Nodup ∧ ∀ m ∈ members, m.2.Unrepeated := by
  constructor
  · intro once
    exact ⟨once members .here, fun m mem inner inside => once inner (.member mem inside)⟩
  · rintro ⟨names, each⟩ inner inside
    cases inside with
    | here => exact names
    | member mem inside => exact each _ mem inner inside

theorem itemsFit_iff {items : List Value} :
    itemsFit items = true ↔ ∀ v ∈ items, v.numbersFit = true := by
  induction items with
  | nil => simp [itemsFit]
  | cons v items ih => simp [itemsFit, ih]

theorem membersFit_iff {members : List (String × Value)} :
    membersFit members = true ↔ ∀ m ∈ members, m.2.numbersFit = true := by
  induction members with
  | nil => simp [membersFit]
  | cons m members ih => simp [membersFit, ih]

theorem Occurs.fits {literal : Literal} {v : Value} (occurs : Occurs (.number literal) v)
    (fit : v.numbersFit = true) : (Number.ofLiteral? literal).isSome = true := by
  generalize whole : Value.number literal = n at occurs
  induction occurs with
  | here => simpa [← whole, numbersFit] using fit
  | item mem _ ih =>
    rw [numbersFit, itemsFit_iff] at fit
    exact ih (fit _ mem)
  | member mem _ ih =>
    rw [numbersFit, membersFit_iff] at fit
    exact ih (fit _ mem)

theorem numbersFit_of_occurs : (v : Value) → (∀ literal, Occurs (.number literal) v →
    (Number.ofLiteral? literal).isSome = true) → v.numbersFit = true
  | .number literal, each => each literal .here
  | .array items, each => by
    rw [numbersFit, itemsFit_iff]
    intro w mem
    exact numbersFit_of_occurs w fun literal inside => each literal (.item mem inside)
  | .object members, each => by
    rw [numbersFit, membersFit_iff]
    rintro ⟨name, w⟩ mem
    have smaller : sizeOf w < sizeOf members := by
      have := List.sizeOf_lt_of_mem mem
      simp only [Prod.mk.sizeOf_spec] at this
      omega
    exact numbersFit_of_occurs w fun literal inside => each literal (.member mem inside)
  | .null, _ => rfl
  | .boolean _, _ => rfl
  | .string _, _ => rfl

theorem numbersFit_iff {v : Value} : v.numbersFit = true ↔
    ∀ literal, Occurs (.number literal) v → (Number.ofLiteral? literal).isSome = true :=
  ⟨fun fit _ occurs => occurs.fits fit, numbersFit_of_occurs v⟩

theorem setMember_of_notMem {name : String} {members : List (String × Value)}
    (new : name ∉ members.map Prod.fst) (v : Value) :
    setMember name v members = members ++ [(name, v)] := by
  induction members with
  | nil => rfl
  | cons m members ih =>
    obtain ⟨n, w⟩ := m
    obtain ⟨other, rest⟩ := not_or.mp (mt List.mem_cons.mpr new)
    rw [setMember, if_neg (Ne.symm other), ih rest]
    rfl

theorem distinct_eq (members : List (String × Value)) :
    distinct members = members.foldl (fun out m => setMember m.1 m.2 out) [] := rfl

theorem foldl_setMember {members out : List (String × Value)}
    (once : ((out ++ members).map Prod.fst).Nodup) :
    members.foldl (fun out m => setMember m.1 m.2 out) out = out ++ members := by
  induction members generalizing out with
  | nil => simp
  | cons m members ih =>
    have new : m.1 ∉ out.map Prod.fst := by
      rw [List.map_append, List.nodup_append] at once
      intro mem
      exact once.2.2 m.1 mem m.1 List.mem_cons_self rfl
    rw [List.foldl_cons, setMember_of_notMem new, ih (by simpa using once), List.append_assoc]
    rfl

theorem distinct_of_nodup {members : List (String × Value)}
    (once : (members.map Prod.fst).Nodup) : distinct members = members := by
  rw [distinct_eq]
  exact foldl_setMember once

end FormatService.Json.Value
