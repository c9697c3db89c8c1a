import Mathlib.Data.List.Forall2
import Mathlib.Data.List.Pairwise
import FormatService.Proofs.Edit.Change

/-!
# Applying any list of changes

What becomes of a text and changes in any order, however they lie. The changes are taken by
position. The first thing that is wrong along them decides: a change that ends before it starts,
one that starts before the one in front of it ends, or a part of the text that would have to be
taken from inside a character. If nothing is wrong, the parts of the text between the changes are
put together with the new texts.
-/

set_option autoImplicit false

namespace FormatService.Edit

open Text (IsBoundary)

/-! ## The order -/

/-- The changes by start and then by end; those with equal ranges are in the order they had. -/
structure StableSort (changes sorted : List Change) : Prop where
  perm : sorted.Perm changes
  ordered : sorted.Pairwise fun a b => a.start < b.start ∨ a.start = b.start ∧ a.stop ≤ b.stop
  stable : ∀ start stop, sorted.filter (fun c => c.start = start ∧ c.stop = stop) =
    changes.filter fun c => c.start = start ∧ c.stop = stop

namespace Change

theorem byPosition_iff (a b : Change) : a.byPosition b = true ↔
    a.start < b.start ∨ a.start = b.start ∧ a.stop ≤ b.stop := by
  simp [byPosition]

theorem byPosition_trans (a b c : Change) (hab : a.byPosition b = true)
    (hbc : b.byPosition c = true) : a.byPosition c = true := by
  rw [byPosition_iff] at hab hbc ⊢
  omega

theorem byPosition_total (a b : Change) : (a.byPosition b || b.byPosition a) = true := by
  rw [Bool.or_eq_true, byPosition_iff, byPosition_iff]
  omega

theorem sort_perm (changes : List Change) : (sort changes).Perm changes :=
  List.mergeSort_perm changes byPosition

theorem sort_ordered (changes : List Change) :
    (sort changes).Pairwise fun a b => a.byPosition b = true :=
  List.pairwise_mergeSort byPosition_trans byPosition_total changes

theorem filter_sort (changes : List Change) (start stop : Nat) :
    (sort changes).filter (fun c => c.start = start ∧ c.stop = stop) =
      changes.filter fun c => c.start = start ∧ c.stop = stop := by
  have level : (changes.filter fun c => c.start = start ∧ c.stop = stop).Pairwise
      fun a b => a.byPosition b = true := by
    apply List.pairwise_of_forall_mem_list
    intro a ha b hb
    have ha := (List.mem_filter.mp ha).2
    have hb := (List.mem_filter.mp hb).2
    simp only [decide_eq_true_eq] at ha hb
    rw [byPosition_iff]
    omega
  have there : (changes.filter fun c => c.start = start ∧ c.stop = stop).Sublist (sort changes) :=
    List.sublist_mergeSort byPosition_trans byPosition_total level List.filter_sublist
  have only := there.filter fun c => c.start = start ∧ c.stop = stop
  have count := ((sort_perm changes).filter fun c => c.start = start ∧ c.stop = stop).length_eq
  rw [List.filter_filter] at only
  simp only [Bool.and_self] at only
  exact (only.eq_of_length count.symm).symm

theorem sort_stableSort (changes : List Change) : StableSort changes (sort changes) := by
  constructor
  · exact sort_perm changes
  · apply (sort_ordered changes).imp
    intro a b h
    exact (byPosition_iff a b).mp h
  · exact filter_sort changes

theorem sort_eq_of_perm {changes others : List Change} (h : others.Perm changes)
    (distinct : changes.Pairwise fun a b => (a.start, a.stop) ≠ (b.start, b.stop)) :
    sort others = sort changes := by
  have symm : Std.Symm fun a b : Change => (a.start, a.stop) ≠ (b.start, b.stop) :=
    ⟨fun _ _ h => h.symm⟩
  apply List.Perm.eq_of_pairwise _ (sort_ordered others) (sort_ordered changes)
  · exact (sort_perm others).trans (h.trans (sort_perm changes).symm)
  · intro a b ha hb hab hba
    have ha : a ∈ changes := h.mem_iff.mp ((sort_perm others).mem_iff.mp ha)
    have hb : b ∈ changes := (sort_perm changes).mem_iff.mp hb
    rw [byPosition_iff] at hab hba
    by_contra other
    apply distinct.forall ha hb other
    rw [Prod.mk.injEq]
    omega

end Change

/-! ## Parts of the text -/

/-- What is between two offsets, where those beyond the end of the text count as the end. -/
def Between (source : Text) (start stop : Nat) (part : Text) : Prop :=
  if min start source.byteLength < min stop source.byteLength then
    ∃ front back, front ++ part ++ back = source ∧
      front.byteLength = min start source.byteLength ∧
      (front ++ part).byteLength = min stop source.byteLength
  else part = []

/-- There is something between two offsets, and it begins or ends inside a character. -/
def Torn (source : Text) (start stop : Nat) : Prop :=
  min start source.byteLength < min stop source.byteLength ∧
    ¬(IsBoundary (min start source.byteLength) source ∧
      IsBoundary (min stop source.byteLength) source)

theorem Between.unique {source : Text} {start stop : Nat} {part other : Text}
    (h : Between source start stop part) (h' : Between source start stop other) : part = other := by
  rw [Between] at h h'
  by_cases some : min start source.byteLength < min stop source.byteLength
  · rw [if_pos some] at h h'
    have hp := Text.slice?_eq_some_iff.mpr h
    have ho := Text.slice?_eq_some_iff.mpr h'
    exact Option.some.inj (hp.symm.trans ho)
  · rw [if_neg some] at h h'
    rw [h, h']

theorem keptBetween_cases (source : Text) (start stop : Nat) :
    (Torn source start stop ∧ keptBetween source start stop = .error .notABoundary) ∨
      (¬Torn source start stop ∧
        ∃ part, Between source start stop part ∧ keptBetween source start stop = .ok part) := by
  by_cases some : start < stop ∧ start < source.byteLength
  · have hstart : min start source.byteLength = start := by omega
    have hstop : min source.byteLength stop = min stop source.byteLength := by omega
    have more : start < min stop source.byteLength := by omega
    simp only [keptBetween, if_pos some, Torn, Between, hstart, hstop, if_pos more]
    cases h : source.slice? start (min stop source.byteLength) with
    | some part =>
      obtain ⟨front, back, whole, hf, hp⟩ := Text.slice?_eq_some_iff.mp h
      have first : IsBoundary start source := ⟨front, part ++ back, by simpa using whole, hf⟩
      have last : IsBoundary (min stop source.byteLength) source := ⟨front ++ part, back, whole, hp⟩
      apply Or.inr
      constructor
      · exact fun torn => torn.2 ⟨first, last⟩
      · exact ⟨part, ⟨front, back, whole, hf, hp⟩, rfl⟩
    | none =>
      apply Or.inl
      constructor
      · constructor
        · exact more
        · rintro ⟨⟨front, rest, hf, first⟩, ⟨upTo, back, hu, last⟩⟩
          obtain ⟨part, rfl, rfl⟩ := Text.exists_append_of_byteLength_le (hf.trans hu.symm)
            (by omega)
          have there := Text.slice?_eq_some_iff.mpr ⟨front, back, hu, first, last⟩
          rw [h] at there
          contradiction
      · rfl
  · have nothing : ¬min start source.byteLength < min stop source.byteLength := by omega
    apply Or.inr
    constructor
    · exact fun torn => nothing torn.1
    · exact ⟨[], by rw [Between, if_neg nothing], by rw [keptBetween, if_neg some]⟩

theorem keptAfter_eq (source : Text) (start : Nat) :
    keptAfter source start = keptBetween source start source.byteLength := by
  by_cases h : start < source.byteLength
  · have rest : source.from? start = source.slice? start source.byteLength := by
      cases hc : Text.cut? start source with
      | none => simp [Text.from?, Text.slice?, hc]
      | some halves =>
        obtain ⟨front, back⟩ := halves
        obtain ⟨rfl, rfl⟩ := Text.cut?_eq_some_iff.mp hc
        have whole := Text.slice?_append front back []
        rw [Text.from?_append]
        simpa using whole.symm
    rw [keptAfter, keptBetween, if_pos h, if_pos ⟨h, h⟩, Nat.min_self, rest]
  · rw [keptAfter, keptBetween, if_neg h, if_neg fun both => h both.1]

/-! ## What is wrong -/

/-- Where the last of the changes ends; the start of the text if there is none. -/
def reach (done : List Change) : Nat := (done.getLast?.map Change.stop).getD 0

@[simp] theorem reach_append (done : List Change) (c : Change) : reach (done ++ [c]) = c.stop := by
  simp [reach]

/-- What is wrong where some changes are done and others to come. An error reports the changes up
to the one in question. -/
inductive Trips (source : Text) (done : List Change) : List Change → ChangeFault → Prop
  | reversed {c : Change} {rest : List Change} (h : c.stop < c.start) :
      Trips source done (c :: rest) (.reversed (done ++ [c]) c)
  | overlapping {c : Change} {rest : List Change} (forward : c.start ≤ c.stop)
      (h : c.start < reach done) :
      Trips source done (c :: rest) (.overlapping (done ++ [c]) (reach done) c)
  | torn {c : Change} {rest : List Change} (forward : c.start ≤ c.stop)
      (apart : reach done ≤ c.start) (h : Torn source (reach done) c.start) :
      Trips source done (c :: rest) .notABoundary
  | tornAfter (h : Torn source (reach done) source.byteLength) :
      Trips source done [] .notABoundary

theorem Trips.unique {source : Text} {done rest : List Change} {f g : ChangeFault}
    (hf : Trips source done rest f) (hg : Trips source done rest g) : f = g := by
  cases hf with
  | reversed h =>
    cases hg with
    | reversed => rfl
    | overlapping forward => omega
    | torn forward => omega
  | overlapping forward h =>
    cases hg with
    | reversed => omega
    | overlapping => rfl
    | torn _ apart => omega
  | torn forward apart =>
    cases hg with
    | reversed => omega
    | overlapping => omega
    | torn => rfl
  | tornAfter =>
    cases hg
    rfl

theorem Trips.message {source : Text} {done rest : List Change} {fault : ChangeFault}
    (h : Trips source done rest fault) (reported : fault ≠ .notABoundary) :
    ∃ c later headline, rest = c :: later ∧
      fault.message = headline ++ Change.describeAll (done ++ [c]) := by
  cases h with
  | reversed => exact ⟨_, _, _, rfl, rfl⟩
  | overlapping => exact ⟨_, _, _, rfl, rfl⟩
  | torn => exact absurd rfl reported
  | tornAfter => exact absurd rfl reported

/-- Nothing is wrong from some changes on. -/
def Smooth (source : Text) (done rest : List Change) : Prop :=
  ∀ next later, next ++ later = rest → ∀ fault, ¬Trips source (done ++ next) later fault

def TripsFirst (source : Text) (done rest : List Change) (fault : ChangeFault) : Prop :=
  ∃ next later, next ++ later = rest ∧ Trips source (done ++ next) later fault ∧
    ∀ earlier others, earlier ++ others = rest → earlier.length < next.length →
      ∀ f, ¬Trips source (done ++ earlier) others f

/-- The parts of the text in front of the changes and behind them, put together with the new
texts. -/
def Woven (source : Text) (done rest : List Change) (t : Text) : Prop :=
  ∃ parts last,
    List.Forall₂ (fun (gap : Nat × Nat) part => Between source gap.1 gap.2 part)
      ((reach done :: rest.map Change.stop).zip (rest.map Change.start)) parts ∧
    Between source (reach (done ++ rest)) source.byteLength last ∧
    t = (List.zipWith (fun part c => part ++ c.newText) parts rest).flatten ++ last

section

variable {source t u : Text} {done rest : List Change} {c : Change} {fault other : ChangeFault}

theorem Trips.first (h : Trips source done rest fault) : TripsFirst source done rest fault := by
  refine ⟨[], rest, List.nil_append rest, by rwa [List.append_nil], ?_⟩
  intro earlier others _ shorter
  exact absurd shorter (Nat.not_lt_zero _)

theorem TripsFirst.later (clear : ∀ f, ¬Trips source done (c :: rest) f)
    (h : TripsFirst source (done ++ [c]) rest fault) :
    TripsFirst source done (c :: rest) fault := by
  obtain ⟨next, later, rfl, trips, first⟩ := h
  refine ⟨c :: next, later, rfl, by simpa using trips, ?_⟩
  intro earlier others whole shorter f
  rcases List.append_eq_cons_iff.mp whole with ⟨rfl, rfl⟩ | ⟨earlier, rfl, tail⟩
  · rw [List.append_nil]
    exact clear f
  · have := first earlier others tail.symm (by simpa using shorter) f
    simpa using this

theorem Smooth.cons (clear : ∀ f, ¬Trips source done (c :: rest) f)
    (h : Smooth source (done ++ [c]) rest) : Smooth source done (c :: rest) := by
  intro next later whole f
  rcases List.append_eq_cons_iff.mp whole with ⟨rfl, rfl⟩ | ⟨next, rfl, tail⟩
  · rw [List.append_nil]
    exact clear f
  · have := h next later tail.symm f
    simpa using this

theorem Woven.cons {part : Text} (hp : Between source (reach done) c.start part)
    (h : Woven source (done ++ [c]) rest t) :
    Woven source done (c :: rest) (part ++ c.newText ++ t) := by
  obtain ⟨parts, last, gaps, behind, rfl⟩ := h
  rw [reach_append] at gaps
  rw [List.append_assoc] at behind
  exact ⟨part :: parts, last, .cons hp gaps, behind, by simp⟩

theorem TripsFirst.unique (h : TripsFirst source done rest fault)
    (h' : TripsFirst source done rest other) : fault = other := by
  obtain ⟨next, later, whole, trips, first⟩ := h
  obtain ⟨next', later', whole', trips', first'⟩ := h'
  have length : next.length = next'.length := by
    apply Nat.le_antisymm
    · apply Nat.le_of_not_lt
      exact fun shorter => first next' later' whole' shorter other trips'
    · apply Nat.le_of_not_lt
      exact fun shorter => first' next later whole shorter fault trips
  obtain ⟨rfl, rfl⟩ := List.append_inj (whole.trans whole'.symm) length
  exact trips.unique trips'

theorem TripsFirst.not_smooth (h : TripsFirst source done rest fault) :
    ¬Smooth source done rest := by
  obtain ⟨next, later, whole, trips, -⟩ := h
  exact fun smooth => smooth next later whole fault trips

theorem Woven.unique (h : Woven source done rest t) (h' : Woven source done rest u) : t = u := by
  obtain ⟨parts, last, gaps, behind, rfl⟩ := h
  obtain ⟨parts', last', gaps', behind', rfl⟩ := h'
  have functional : Relator.RightUnique
      fun (gap : Nat × Nat) part => Between source gap.1 gap.2 part := by
    intro gap part part' hp hp'
    exact hp.unique hp'
  rw [functional.forall₂ gaps gaps', behind.unique behind']

end

/-- The induction is on the changes to come. Either something is wrong with the next one, or the
text in front of it is kept and the others decide. -/
theorem applyFrom_cases (source : Text) (done rest : List Change) :
    (∃ fault, applyFrom source done (reach done) rest = .error fault ∧
      TripsFirst source done rest fault) ∨
    ∃ t, applyFrom source done (reach done) rest = .ok t ∧ Smooth source done rest ∧
      Woven source done rest t := by
  induction rest generalizing done with
  | nil =>
    rw [applyFrom, keptAfter_eq]
    rcases keptBetween_cases source (reach done) source.byteLength with
      ⟨torn, failed⟩ | ⟨whole, last, between, kept⟩
    · exact .inl ⟨.notABoundary, failed, (Trips.tornAfter torn).first⟩
    · apply Or.inr
      refine ⟨last, kept, ?_, [], last, .nil, by simpa using between, rfl⟩
      intro next later none fault trips
      obtain ⟨rfl, rfl⟩ := List.append_eq_nil_iff.mp none
      rw [List.append_nil] at trips
      cases trips with
      | tornAfter torn => exact whole torn
  | cons c rest ih =>
    rw [applyFrom]
    by_cases backward : c.stop < c.start
    · rw [if_pos backward]
      exact .inl ⟨_, rfl, (Trips.reversed backward).first⟩
    · rw [if_neg backward]
      have forward : c.start ≤ c.stop := Nat.le_of_not_lt backward
      by_cases early : c.start < reach done
      · rw [if_pos early]
        exact .inl ⟨_, rfl, (Trips.overlapping forward early).first⟩
      · rw [if_neg early]
        have apart : reach done ≤ c.start := Nat.le_of_not_lt early
        rcases keptBetween_cases source (reach done) c.start with
          ⟨torn, failed⟩ | ⟨whole, part, between, kept⟩
        · rw [failed]
          exact .inl ⟨_, rfl, (Trips.torn forward apart torn).first⟩
        · have clear : ∀ f, ¬Trips source done (c :: rest) f := by
            intro f trips
            cases trips with
            | reversed h => exact backward h
            | overlapping _ h => exact early h
            | torn _ _ h => exact whole h
          -- the text up to here is kept, and what is reached now is the end of this change
          have others := ih (done ++ [c])
          rw [reach_append] at others
          rw [kept]
          rcases others with ⟨fault, failed, first⟩ | ⟨t, applied, smooth, woven⟩
          · simp only [failed]
            exact .inl ⟨fault, rfl, first.later clear⟩
          · simp only [applied]
            exact .inr ⟨_, rfl, smooth.cons clear, woven.cons between⟩

theorem apply_cases (source : Text) (changes : List Change) :
    (∃ fault, apply source changes = .error fault ∧
      TripsFirst source [] (Change.sort changes) fault) ∨
    ∃ t, apply source changes = .ok t ∧ Smooth source [] (Change.sort changes) ∧
      Woven source [] (Change.sort changes) t :=
  applyFrom_cases source [] (Change.sort changes)

theorem apply_eq_error_iff (source : Text) (changes : List Change) (fault : ChangeFault) :
    apply source changes = .error fault ↔
      TripsFirst source [] (Change.sort changes) fault := by
  constructor
  · intro failed
    rcases apply_cases source changes with ⟨f, h, first⟩ | ⟨t, h, -⟩
    · rw [failed] at h
      exact Except.error.inj h ▸ first
    · rw [failed] at h
      contradiction
  · intro first
    rcases apply_cases source changes with ⟨f, h, first'⟩ | ⟨t, h, smooth, -⟩
    · rw [h, first'.unique first]
    · exact absurd smooth first.not_smooth

theorem apply_eq_ok_iff (source : Text) (changes : List Change) (t : Text) :
    apply source changes = .ok t ↔
      Smooth source [] (Change.sort changes) ∧ Woven source [] (Change.sort changes) t := by
  constructor
  · intro applied
    rcases apply_cases source changes with ⟨f, h, -⟩ | ⟨u, h, whole⟩
    · rw [applied] at h
      contradiction
    · rw [applied] at h
      exact Except.ok.inj h ▸ whole
  · rintro ⟨smooth, woven⟩
    rcases apply_cases source changes with ⟨f, h, first⟩ | ⟨u, h, -, woven'⟩
    · exact absurd smooth first.not_smooth
    · rw [h, woven'.unique woven]

/-- Applying changes fails with the first thing that is wrong along them, taken by position, and
else puts the parts of the text together with the new texts. A change that is wrong is reported
with all that come before it. Changes with ranges of their own can be given in any order. -/
theorem apply_decided (source : Text) (changes : List Change) :
    StableSort changes (Change.sort changes) ∧
      (∀ fault, apply source changes = .error fault ↔
        TripsFirst source [] (Change.sort changes) fault) ∧
      (∀ t, apply source changes = .ok t ↔
        Smooth source [] (Change.sort changes) ∧ Woven source [] (Change.sort changes) t) ∧
      (∀ done rest fault, Trips source done rest fault → fault ≠ .notABoundary →
        ∃ c later headline, rest = c :: later ∧
          fault.message = headline ++ Change.describeAll (done ++ [c])) ∧
      ∀ others : List Change, others.Perm changes →
        changes.Pairwise (fun a b => (a.start, a.stop) ≠ (b.start, b.stop)) →
          apply source others = apply source changes := by
  constructor
  · exact Change.sort_stableSort changes
  constructor
  · exact apply_eq_error_iff source changes
  constructor
  · exact apply_eq_ok_iff source changes
  constructor
  · intro done rest fault trips reported
    exact trips.message reported
  · intro others perm distinct
    rw [apply, apply, Change.sort_eq_of_perm perm distinct]

/-- Two changes that overlap are reported in their order, however they are given. -/
theorem apply_decided_shuffled :
    let source : Text := ['0', '1', '2', '3', '4', '5', '6', '7', '8', '9']
    let a : Change := ⟨2, 4, ['x']⟩
    let b : Change := ⟨3, 5, ['x']⟩
    [b, a].Perm [a, b] ∧ [a, b].Pairwise (fun a b => (a.start, a.stop) ≠ (b.start, b.stop)) ∧
      apply source [b, a] = .error (.overlapping [a, b] 4 b) := by
  intro source a b
  have perm : [b, a].Perm [a, b] := List.Perm.swap a b []
  have distinct : [a, b].Pairwise (fun a b => (a.start, a.stop) ≠ (b.start, b.stop)) := by decide
  have sorted : Change.sort [a, b] = [a, b] := List.mergeSort_of_pairwise (by decide)
  have reported : apply source [a, b] = .error (.overlapping [a, b] 4 b) := by
    rw [apply, sorted]
    decide
  obtain ⟨-, -, -, -, orderless⟩ := apply_decided source [a, b]
  exact ⟨perm, distinct, (orderless [b, a] perm distinct).trans reported⟩

end FormatService.Edit
