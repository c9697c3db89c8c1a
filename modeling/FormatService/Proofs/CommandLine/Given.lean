import FormatService.CommandLine.Reading
import FormatService.Proofs.Except

/-!
# What was given to a command

Adding a parameter touches no other one. What is checked before it is added has values where
it needs them, so a parameter that was given has its first value. The last check lets no two
rivals through.
-/

set_option autoImplicit false

namespace FormatService.CommandLine

namespace Parameter

def valued (p : Parameter) : Bool := p.takesValue || p.isPositional

end Parameter

namespace Given

variable (g : Given) (p q : Parameter) (values new : List Text)

@[simp] theorem values_nil : Given.values [] p = [] := rfl

@[simp] theorem has_nil : Given.has [] p = false := rfl

@[simp] theorem values_cons :
    Given.values ((q, new) :: g) p = if q = p then new else g.values p := by
  by_cases h : q = p <;> simp [Given.values, h]

@[simp] theorem has_cons : Given.has ((q, new) :: g) p = (q == p || g.has p) := rfl

theorem values_add : (g.add q new).values p = if q = p then g.values p ++ new else g.values p := by
  induction g with
  | nil => simp [add]
  | cons entry g ih =>
    obtain ⟨r, old⟩ := entry
    by_cases hr : r = q
    · subst hr
      by_cases h : r = p <;> simp [add, h]
    · by_cases h : r = p
      · subst h
        simp [add, hr, Ne.symm hr]
      · simp [add, hr, h, ih]

theorem has_add : (g.add q new).has p = (q == p || g.has p) := by
  induction g with
  | nil => simp [add]
  | cons entry g ih =>
    obtain ⟨r, old⟩ := entry
    by_cases hr : r = q
    · subst hr
      cases h : r == p <;> simp [add, h]
    · simp [add, hr, ih, Bool.or_left_comm]

theorem mem_names : p ∈ g.names ↔ g.has p = true := by
  simp [names, has]

theorem values_of_not_has (h : g.has p = false) : g.values p = [] := by
  induction g with
  | nil => rfl
  | cons entry g ih =>
    obtain ⟨r, old⟩ := entry
    rw [has_cons, Bool.or_eq_false_iff] at h
    simp [ih h.2, show r ≠ p by simpa using h.1]

def Filled : Prop := ∀ p, g.has p = true → p.valued = true → g.values p ≠ []

variable {g p values}

theorem Filled.add (h : g.Filled) (some : p.valued = true → values ≠ []) :
    (g.add p values).Filled := by
  intro r has valued
  rw [values_add]
  by_cases hr : p = r
  · subst hr
    simp [some valued]
  · rw [if_neg hr]
    exact h r (by simpa [has_add, hr] using has) valued

end Given

variable {c : Command} {p : Parameter} {values : List Text} {g g' : Given} {s t : Progress}

theorem check_eq_ok_iff : check c p values g = .ok g' ↔
    (p.valued = true → values ≠ []) ∧ p ≠ .help ∧ p ≠ .version ∧
      (p.repeats = true ∨ g.has p = false) ∧ g' = g.add p values := by
  have valued : (p.takesValue || p.isPositional) = p.valued := rfl
  rw [check, valued]
  by_cases empty : (p.valued && values.isEmpty) = true
  · have missing : ¬(p.valued = true → values ≠ []) := by simpa using empty
    simp [empty, missing, misuse]
  rw [if_neg empty]
  have filled : p.valued = true → values ≠ [] := by simpa using empty
  by_cases help : p = .help
  · simp [help]
  by_cases version : p = .version
  · simp [version]
  rw [if_neg help, if_neg version]
  by_cases again : (!p.repeats && g.has p) = true
  · have twice : ¬(p.repeats = true ∨ g.has p = false) := by simpa using again
    simp [again, twice, misuse]
  · have once : p.repeats = true ∨ g.has p = false := by
      cases hr : p.repeats <;> simp_all
    rw [if_neg again, Except.ok.injEq]
    exact ⟨fun h => ⟨filled, help, version, once, h.symm⟩, fun h => h.2.2.2.2.symm⟩

theorem settle_of_idle (h : s.pending = none) : settle c s = .ok s := by
  rw [settle, h]

theorem settle_of_pending (h : s.pending = some (p, values))
    (ok : check c p values s.given = .ok g) :
    settle c s = .ok { s with given := g, pending := none } := by
  rw [settle, h]
  simp only [ok]
  rfl

theorem settle_cases (h : settle c s = .ok t) :
    (s.pending = none ∧ t = s) ∨ ∃ p values g, s.pending = some (p, values) ∧
      check c p values s.given = .ok g ∧ t = { s with given := g, pending := none } := by
  rw [settle] at h
  split at h
  · rename_i idle
    exact .inl ⟨idle, (Except.ok.inj h).symm⟩
  · rename_i p values pending
    cases checked : check c p values s.given with
    | error halt =>
      rw [checked] at h
      cases h
    | ok g =>
      rw [checked] at h
      exact .inr ⟨p, values, g, pending, checked, (Except.ok.inj h).symm⟩

theorem rivals?_eq_none_iff (g : Given) : rivals? g = none ↔
    ¬(g.has .verbose = true ∧ g.has .silent = true) ∧
      ¬(g.has .files = true ∧ g.has .stdin = true) := by
  have alone (p : Parameter) :
      (p.rival?.filter g.has).map (fun rival => (p, rival)) = none ↔
        ∀ rival, p.rival? = some rival → g.has rival = false := by
    cases h : p.rival? <;> simp
  simp only [rivals?, List.findSome?_eq_none_iff, alone, Given.mem_names]
  constructor
  · intro h
    constructor
    · rintro ⟨verbose, silent⟩
      simpa [silent] using h .verbose verbose .silent rfl
    · rintro ⟨files, stdin⟩
      simpa [stdin] using h .files files .stdin rfl
  · rintro ⟨flags, texts⟩ p has rival hr
    cases p <;> simp only [Parameter.rival?, Option.some.injEq, reduceCtorEq] at hr <;>
      subst hr <;> simp_all

theorem conclude_eq_ok_iff : conclude c s = .ok g ↔
    ∃ t, settle c s = .ok t ∧ t.given = g ∧ rivals? g = none ∧ lacksFiles c g = false := by
  rw [conclude, bind_eq_ok]
  refine exists_congr fun t => and_congr_right fun _ => ?_
  cases hr : rivals? t.given with
  | some pair =>
    refine iff_of_false (by simp [misuse]) ?_
    rintro ⟨rfl, peace, -⟩
    rw [hr] at peace
    cases peace
  | none =>
    by_cases lacks : lacksFiles c t.given = true
    · refine iff_of_false (by simp [lacks, misuse]) ?_
      rintro ⟨rfl, -, whole⟩
      exact absurd (lacks.symm.trans whole) (by decide)
    · rw [if_neg lacks]
      constructor
      · intro h
        obtain rfl := Except.ok.inj h
        exact ⟨rfl, hr, by simpa using lacks⟩
      · rintro ⟨rfl, -, -⟩
        rfl

end FormatService.CommandLine
