import FormatService.Proofs.Edit.Inverse
import FormatService.Proofs.Text.Bytes

/-!
# Anchored positions

Where a position comes to lie when changes are applied that fit the text. Positions keep their
order and stay in the text and on its boundaries. A position inside a change moves to the end of
the new text. Any other position parts the changed text as it parted the text before: what lies
in front of it, after the changes that end there, and what follows, after the others.
-/

set_option autoImplicit false

namespace FormatService.Edit

open Text (IsBoundary)

namespace Change

/-- Some of what is replaced lies in front of the position, and some behind it. -/
def Encloses (c : Change) (p : Nat) : Prop := c.start < p ∧ p < c.stop

instance (c : Change) (p : Nat) : Decidable (c.Encloses p) :=
  inferInstanceAs (Decidable (c.start < p ∧ p < c.stop))

def after (n : Nat) (c : Change) : Change := ⟨c.start - n, c.stop - n, c.newText⟩

end Change

def splice (n : Nat) (b : Bytes) : List Change → Bytes
  | [] => b
  | c :: rest =>
    b.take (c.start - n) ++ Bytes.ofText c.newText ++ splice c.stop (b.drop (c.stop - n)) rest

theorem filter_of_later {p : Nat} {cs : List Change} (later : ∀ c ∈ cs, p < c.stop) :
    cs.filter (·.stop ≤ p) = [] ∧ cs.filter (p < ·.stop) = cs := by
  constructor
  · apply List.filter_eq_nil_iff.mpr
    intro c hc
    simpa using later c hc
  · apply List.filter_eq_self.mpr
    intro c hc
    simpa using later c hc

theorem ended_append_later {cs : List Change} (ordered : cs.Pairwise fun c d => c.stop ≤ d.stop)
    (p : Nat) : cs.filter (·.stop ≤ p) ++ cs.filter (p < ·.stop) = cs := by
  induction cs with
  | nil => rfl
  | cons c cs ih =>
    obtain ⟨first, rest⟩ := List.pairwise_cons.mp ordered
    by_cases h : c.stop ≤ p
    · have ended : ¬p < c.stop := by omega
      simp [h, ended, ih rest]
    · have later : ∀ d ∈ c :: cs, p < d.stop := by
        intro d hd
        rcases List.mem_cons.mp hd with rfl | hd
        · omega
        · have := first d hd
          omega
      rw [(filter_of_later later).1, (filter_of_later later).2]
      rfl

theorem splice_change {n start stop : Nat} {kept replaced : Bytes} (b : Bytes) (inserted : Text)
    (cs : List Change) (hstart : start = n + kept.length)
    (hstop : stop = n + kept.length + replaced.length) :
    splice n (kept ++ replaced ++ b) (⟨start, stop, inserted⟩ :: cs) =
      kept ++ Bytes.ofText inserted ++ splice stop b cs := by
  have front : (kept ++ replaced ++ b).take (start - n) = kept := by
    rw [List.append_assoc]
    apply List.take_left'
    omega
  have back : (kept ++ replaced ++ b).drop (stop - n) = b := by
    apply List.drop_left'
    rw [List.length_append]
    omega
  rw [splice, front, back]

theorem take_drop_behind {n p : Nat} (kept replaced b : Bytes)
    (behind : n + kept.length + replaced.length ≤ p) :
    (kept ++ replaced ++ b).take (p - n) =
        kept ++ replaced ++ b.take (p - (n + kept.length + replaced.length)) ∧
      (kept ++ replaced ++ b).drop (p - n) =
        b.drop (p - (n + kept.length + replaced.length)) := by
  have length : (kept ++ replaced).length ≤ p - n := by
    rw [List.length_append]
    omega
  have rest : p - n - (kept ++ replaced).length = p - (n + kept.length + replaced.length) := by
    rw [List.length_append]
    omega
  constructor
  · rw [List.take_append, List.take_of_length_le length, rest]
  · rw [List.drop_append, List.drop_of_length_le length, rest, List.nil_append]

theorem take_drop_kept {n p : Nat} (kept replaced b : Bytes)
    (near : p ≤ n + kept.length) :
    (kept ++ replaced ++ b).take (p - n) = kept.take (p - n) ∧
      (kept ++ replaced ++ b).drop (p - n) = kept.drop (p - n) ++ replaced ++ b := by
  have length : p - n ≤ kept.length := by omega
  rw [List.append_assoc]
  constructor
  · exact List.take_append_of_le_length length
  · rw [List.drop_append_of_le_length length, List.append_assoc]

namespace Paired

variable {n m p q : Nat} {cs ds before later : List Change} {s t a b x : Text}

/-! ## Offsets -/

theorem shiftFrom_of_later (later : ∀ c ∈ cs, p ≤ c.start ∧ p < c.stop) (hp : n ≤ p)
    (fits : m + (p - n) < Change.limit) : shiftFrom p ((m : Int) - n) cs = m + (p - n) := by
  cases cs with
  | nil => exact shiftFrom_nil hp fits
  | cons c cs =>
    obtain ⟨start, stop⟩ := later c List.mem_cons_self
    rw [shiftFrom, if_neg (by omega), if_neg (by omega)]
    exact shiftFrom_nil hp fits

theorem shiftFrom_between (h : Paired n m cs ds s t) (hp : n ≤ p) (hs : p ≤ n + s.byteLength)
    (fits : m + t.byteLength < Change.limit) :
    m ≤ shiftFrom p ((m : Int) - n) cs ∧
      shiftFrom p ((m : Int) - n) cs ≤ m + t.byteLength := by
  induction h with
  | done n m t =>
    rw [shiftFrom_nil hp (by omega)]
    omega
  | @change n m cs ds s t kept replaced inserted rest ih =>
    simp only [Text.byteLength_append] at hs fits ⊢
    rw [shiftFrom_change _ _ _ _ hp (by omega)]
    by_cases behind : n + kept.byteLength + replaced.byteLength ≤ p
    · have := ih behind (by omega) (by omega)
      rw [if_pos behind]
      omega
    · rw [if_neg behind]
      split <;> omega

theorem shiftFrom_mono (h : Paired n m cs ds s t) (hp : n ≤ p) (hpq : p ≤ q)
    (hs : q ≤ n + s.byteLength) (fits : m + t.byteLength < Change.limit) :
    shiftFrom p ((m : Int) - n) cs ≤ shiftFrom q ((m : Int) - n) cs := by
  induction h with
  | done n m t =>
    rw [shiftFrom_nil hp (by omega), shiftFrom_nil (by omega) (by omega)]
    omega
  | @change n m cs ds s t kept replaced inserted rest ih =>
    simp only [Text.byteLength_append] at hs fits
    rw [shiftFrom_change _ _ _ _ hp (by omega), shiftFrom_change _ _ _ _ (by omega) (by omega)]
    -- the change can end in front of both, between them or behind both
    by_cases behind : n + kept.byteLength + replaced.byteLength ≤ p
    · rw [if_pos behind, if_pos (by omega)]
      exact ih behind (by omega) (by omega)
    · rw [if_neg behind]
      by_cases passed : n + kept.byteLength + replaced.byteLength ≤ q
      · have := (rest.shiftFrom_between passed (by omega) (by omega)).1
        rw [if_pos passed]
        split <;> omega
      · rw [if_neg passed]
        split <;> split <;> omega

theorem shiftFrom_shiftFrom (h : Paired n m cs ds s t) (hp : n ≤ p) (hs : p ≤ n + s.byteLength)
    (kept : ∀ c ∈ cs, ¬(c.start ≤ p ∧ p < c.stop)) (fits : n + s.byteLength < Change.limit)
    (fits' : m + t.byteLength < Change.limit) :
    shiftFrom (shiftFrom p ((m : Int) - n) cs) ((n : Int) - m) ds = p := by
  induction h with
  | done n m t =>
    rw [shiftFrom_nil hp (by omega), shiftFrom_nil (by omega) (by omega)]
    omega
  | @change n m cs ds s t k replaced inserted rest ih =>
    simp only [Text.byteLength_append] at hs fits fits'
    have apart := kept _ List.mem_cons_self
    have others := fun c hc => kept c (List.mem_cons_of_mem _ hc)
    rw [shiftFrom_change _ _ _ _ hp (by omega)]
    by_cases behind : n + k.byteLength + replaced.byteLength ≤ p
    · have := (rest.shiftFrom_between behind (by omega) (by omega)).1
      rw [if_pos behind, shiftFrom_change _ _ _ _ (by omega) (by omega), if_pos this]
      exact ih behind (by omega) others (by omega) (by omega)
    · have : p < n + k.byteLength := by
        simp only [not_and, Nat.not_lt] at apart
        omega
      rw [if_neg behind, if_neg (by omega), shiftFrom_change _ _ _ _ (by omega) (by omega),
        if_neg (by omega), if_neg (by omega)]
      omega

theorem shiftFrom_append (h : Paired n m before ds a x) (ended : ∀ c ∈ before, c.stop ≤ p)
    (later : List Change) :
    shiftFrom p ((m : Int) - n) (before ++ later) =
      shiftFrom p (((m + x.byteLength : Nat) : Int) - ((n + a.byteLength : Nat) : Int)) later := by
  induction h with
  | done n m t =>
    have hm : (m : Int) - n = ((m + t.byteLength : Nat) : Int) - ((n + t.byteLength : Nat) : Int) :=
      by omega
    rw [List.nil_append, hm]
  | @change n m before ds a x kept replaced inserted rest ih =>
    rw [List.cons_append, shiftFrom, if_pos (ended _ List.mem_cons_self), moved_add_growth,
      ih fun c hc => ended c (List.mem_cons_of_mem _ hc)]
    simp only [Text.byteLength_append, Nat.add_assoc]

/-! ## Texts -/

theorem skip (h : Paired n m cs ds s t) (hs : a ++ b = s)
    (started : ∀ c ∈ cs, n + a.byteLength ≤ c.start) :
    ∃ y, Paired (n + a.byteLength) (m + a.byteLength) cs ds b y ∧ a ++ y = t := by
  cases h with
  | done => exact ⟨b, .done _ _ b, hs⟩
  | change kept replaced inserted rest =>
    have hk : n + a.byteLength ≤ n + kept.byteLength := started _ List.mem_cons_self
    rw [List.append_assoc] at hs
    obtain ⟨k, rfl, rfl⟩ := Text.exists_append_of_byteLength_le hs (by omega)
    rw [Text.byteLength_append, ← Nat.add_assoc, ← Nat.add_assoc] at rest
    have next := Paired.change k replaced inserted rest
    exact ⟨k ++ inserted ++ _, by simpa [Nat.add_assoc] using next, by simp⟩

theorem split (h : Paired n m (before ++ later) ds s t) (hs : a ++ b = s)
    (ended : ∀ c ∈ before, c.stop ≤ n + a.byteLength)
    (started : ∀ c ∈ later, n + a.byteLength ≤ c.start) :
    ∃ ds₁ ds₂ x y, Paired n m before ds₁ a x ∧
      Paired (n + a.byteLength) (m + x.byteLength) later ds₂ b y ∧ x ++ y = t := by
  induction before generalizing n m ds s t a with
  | nil =>
    obtain ⟨y, rest, hy⟩ := h.skip hs started
    exact ⟨[], ds, a, y, .done n m a, rest, hy⟩
  | cons c before ih =>
    rw [List.cons_append] at h
    cases h with
    | @change _ _ _ ds s t kept replaced inserted rest =>
      have hc : n + kept.byteLength + replaced.byteLength ≤ n + a.byteLength :=
        ended _ List.mem_cons_self
      obtain ⟨a, rfl, rfl⟩ := Text.exists_append_of_byteLength_le hs.symm
        (by simp only [Text.byteLength_append]; omega)
      simp only [Text.byteLength_append, ← Nat.add_assoc] at ended started
      obtain ⟨ds₁, ds₂, x, y, front, back, rfl⟩ := ih rest rfl
        (fun d hd => ended d (List.mem_cons_of_mem _ hd)) started
      have behind : Paired (n + (kept ++ replaced ++ a).byteLength)
          (m + (kept ++ inserted ++ x).byteLength) later ds₂ b y := by
        simpa [Nat.add_assoc] using back
      exact ⟨_, ds₂, kept ++ inserted ++ x, y, .change kept replaced inserted front, behind,
        by simp⟩

theorem after (h : Paired n m cs ds s t) (n' m' k l : Nat) (hn : n = k + n') (hm : m = l + m') :
    Paired n' m' (cs.map (Change.after k)) (ds.map (Change.after l)) s t := by
  induction h generalizing n' m' with
  | done n m t => exact .done n' m' t
  | @change n m cs ds s t kept replaced inserted rest ih =>
    have next := Paired.change kept replaced inserted
      (ih (n' + kept.byteLength + replaced.byteLength) (m' + kept.byteLength + inserted.byteLength)
        (by omega) (by omega))
    have hc : Change.after k ⟨n + kept.byteLength, n + kept.byteLength + replaced.byteLength,
        inserted⟩ = ⟨n' + kept.byteLength, n' + kept.byteLength + replaced.byteLength, inserted⟩ := by
      simp [Change.after]
      omega
    have hd : Change.after l ⟨m + kept.byteLength, m + kept.byteLength + inserted.byteLength,
        replaced⟩ = ⟨m' + kept.byteLength, m' + kept.byteLength + inserted.byteLength, replaced⟩ := by
      simp [Change.after]
      omega
    rw [List.map_cons, List.map_cons, hc, hd]
    exact next

theorem apply_after (h : Paired n m cs ds s t) : apply s (cs.map (Change.after n)) = .ok t :=
  (h.after 0 0 n m rfl rfl).apply_eq

/-! ## Bytes -/

theorem splice_eq (h : Paired n m cs ds s t) : splice n (Bytes.ofText s) cs = Bytes.ofText t := by
  induction h with
  | done => rfl
  | change kept replaced inserted rest ih =>
    simp only [Bytes.ofText_append]
    rw [splice_change _ _ _ (by simp) (by simp), ih]

theorem splice_append (h : Paired n m cs ds s t) (hp : n ≤ p) (hs : p ≤ n + s.byteLength)
    (outside : ∀ c ∈ cs, ¬c.Encloses p) (fits : m + t.byteLength < Change.limit) :
    splice n ((Bytes.ofText s).take (p - n)) (cs.filter (·.stop ≤ p)) ++
        splice p ((Bytes.ofText s).drop (p - n)) (cs.filter (p < ·.stop)) = Bytes.ofText t ∧
      shiftFrom p ((m : Int) - n) cs =
        m + (splice n ((Bytes.ofText s).take (p - n)) (cs.filter (·.stop ≤ p))).length := by
  induction h with
  | done n m t =>
    constructor
    · exact List.take_append_drop (p - n) (Bytes.ofText t)
    · rw [shiftFrom_nil hp (by omega)]
      simp only [List.filter_nil, splice, List.length_take, Bytes.length_ofText]
      omega
  | @change n m cs ds s t kept replaced inserted rest ih =>
    simp only [Text.byteLength_append] at hs fits
    simp only [Bytes.ofText_append]
    rw [shiftFrom_change _ _ _ _ hp (by omega)]
    by_cases behind : n + kept.byteLength + replaced.byteLength ≤ p
    -- the change has ended: it belongs to the front, and the others decide
    · obtain ⟨joined, position⟩ := ih behind (by omega)
        (fun c hc => outside c (List.mem_cons_of_mem _ hc)) (by omega)
      obtain ⟨front, back⟩ := take_drop_behind (Bytes.ofText kept) (Bytes.ofText replaced)
        (Bytes.ofText s) (by simpa only [Bytes.length_ofText] using behind)
      simp only [Bytes.length_ofText] at front back
      have passed : ¬p < n + kept.byteLength + replaced.byteLength := by omega
      rw [List.filter_cons_of_pos (by simpa using behind),
        List.filter_cons_of_neg (by simpa using passed), front, back,
        splice_change _ _ _ (by simp) (by simp), List.append_assoc, joined, if_pos behind, position]
      constructor
      · rfl
      · simp only [List.length_append, Bytes.length_ofText]
        omega
    -- it is still to come, and so are the others: all of them belong to the back
    · have near : p ≤ n + kept.byteLength := by
        have := outside _ List.mem_cons_self
        simp only [Change.Encloses] at this
        omega
      have later : ∀ c ∈ (⟨n + kept.byteLength, n + kept.byteLength + replaced.byteLength,
          inserted⟩ :: cs : List Change), p < c.stop := by
        intro c hc
        rcases List.mem_cons.mp hc with rfl | hc
        · exact Nat.lt_of_not_le behind
        · have := rest.ordered.2 c hc
          omega
      obtain ⟨front, back⟩ := take_drop_kept (Bytes.ofText kept) (Bytes.ofText replaced)
        (Bytes.ofText s) (by simpa only [Bytes.length_ofText] using near)
      rw [(filter_of_later later).1, (filter_of_later later).2, front, back,
        splice_change _ _ _ (by simp; omega) (by simp; omega), rest.splice_eq, if_neg behind,
        if_neg (by omega)]
      constructor
      · simp only [splice, ← List.append_assoc, List.take_append_drop]
      · simp only [splice, List.length_take, Bytes.length_ofText]
        omega

end Paired

/-- Where positions come to lie when the changes lead from the one text to the other. -/
structure Anchors (s : Text) (cs : List Change) (t : Text) : Prop where
  monotone : ∀ p q, p ≤ q → q ≤ s.byteLength → shift p cs ≤ shift q cs
  within : ∀ p ≤ s.byteLength, shift p cs ≤ t.byteLength
  boundary : ∀ p, IsBoundary p s → IsBoundary (shift p cs) t
  /-- Inside a change the position moves behind the new text. -/
  enclosed : ∀ before c later p, before ++ c :: later = cs → c.Encloses p →
    ∃ a replaced b x y, a ++ replaced ++ b = s ∧ a.byteLength = c.start ∧
      (a ++ replaced).byteLength = c.stop ∧ apply a before = .ok x ∧
      apply b (later.map (Change.after c.stop)) = .ok y ∧ x ++ c.newText ++ y = t ∧
      shift p cs = (x ++ c.newText).byteLength
  /-- Anywhere else each side has the changes of its own. -/
  parted : ∀ a b, a ++ b = s → (∀ c ∈ cs, ¬c.Encloses a.byteLength) →
    ∃ x y, apply a (cs.filter (·.stop ≤ a.byteLength)) = .ok x ∧
      apply b ((cs.filter (a.byteLength < ·.stop)).map (Change.after a.byteLength)) = .ok y ∧
      x ++ y = t ∧ shift a.byteLength cs = x.byteLength
  /-- Within a character too, where the sides are bytes. -/
  spliced : splice 0 (Bytes.ofText s) cs = Bytes.ofText t ∧
    ∀ p ≤ s.byteLength, (∀ c ∈ cs, ¬c.Encloses p) →
      splice 0 ((Bytes.ofText s).take p) (cs.filter (·.stop ≤ p)) ++
        splice p ((Bytes.ofText s).drop p) (cs.filter (p < ·.stop)) = Bytes.ofText t ∧
      shift p cs = (splice 0 ((Bytes.ofText s).take p) (cs.filter (·.stop ≤ p))).length
  /-- What is not replaced comes back to its place. -/
  returns : ∃ inverse, inverse? s cs = some inverse ∧
    ∀ p ≤ s.byteLength, (∀ c ∈ cs, ¬(c.start ≤ p ∧ p < c.stop)) →
      shift (shift p cs) inverse = p

namespace Paired

variable {cs ds : List Change} {s t : Text}

theorem shift_eq (p : Nat) (cs : List Change) :
    shift p cs = shiftFrom p (((0 : Nat) : Int) - ((0 : Nat) : Int)) cs := rfl

theorem enclosed {before later : List Change} {c : Change} {p : Nat}
    (h : Paired 0 0 (before ++ c :: later) ds s t) (inside : c.Encloses p) (fits : Addressable t) :
    ∃ a replaced b x y, a ++ replaced ++ b = s ∧ a.byteLength = c.start ∧
      (a ++ replaced).byteLength = c.stop ∧ apply a before = .ok x ∧
      apply b (later.map (Change.after c.stop)) = .ok y ∧ x ++ c.newText ++ y = t ∧
      shift p (before ++ c :: later) = (x ++ c.newText).byteLength := by
  have mem : c ∈ before ++ c :: later := List.mem_append_right _ List.mem_cons_self
  obtain ⟨apart, ordered⟩ := h.ordered
  obtain ⟨a, rest, hs, ha⟩ := (h.fits.boundaries c mem).1
  obtain ⟨-, following, around⟩ := List.pairwise_append.mp apart
  have ended : ∀ d ∈ before, d.stop ≤ c.start := fun d hd => around d hd c List.mem_cons_self
  have started : ∀ d ∈ c :: later, c.start ≤ d.start := by
    intro d hd
    rcases List.mem_cons.mp hd with rfl | hd
    · exact Nat.le_refl _
    · have := (List.pairwise_cons.mp following).1 d hd
      have := (ordered c mem).2
      omega
  -- taken apart where the change starts, so that it comes first behind the cut
  obtain ⟨ds₁, ds₂, x, u, front, back, rfl⟩ := h.split hs (by simpa [ha] using ended)
    (by simpa [ha] using started)
  have moved : shift p (before ++ c :: later) =
      shiftFrom p (((0 + x.byteLength : Nat) : Int) - ((0 + a.byteLength : Nat) : Int))
        (c :: later) := by
    rw [shift_eq]
    apply front.shiftFrom_append
    intro d hd
    have := ended d hd
    have := inside.1
    omega
  rw [moved]
  cases back with
  | @change _ _ _ _ b y kept replaced inserted last =>
    obtain rfl : kept = [] := Text.byteLength_eq_zero (by simp only at ha; omega)
    simp only [Change.Encloses, Text.byteLength_nil, Nat.add_zero, Nat.zero_add] at inside last ⊢
    simp only [Addressable, Text.byteLength_append, Text.byteLength_nil] at fits
    have position := shiftFrom_change (n := a.byteLength) (m := x.byteLength) 0
      replaced.byteLength inserted later (p := p) (by omega) (by omega)
    simp only [Nat.add_zero] at position
    have old : a ++ replaced ++ b = s := by simpa using hs
    have new : x ++ inserted ++ y = x ++ ([] ++ inserted ++ y) := by simp
    rw [position, if_neg (by omega), if_pos (by omega)]
    exact ⟨a, replaced, b, x, y, old, rfl, Text.byteLength_append a replaced, front.apply_eq,
      last.apply_after, new, (Text.byteLength_append x inserted).symm⟩

theorem parted (h : Paired 0 0 cs ds s t) {a b : Text} (hs : a ++ b = s)
    (outside : ∀ c ∈ cs, ¬c.Encloses a.byteLength) (fits : Addressable t) :
    ∃ x y, apply a (cs.filter (·.stop ≤ a.byteLength)) = .ok x ∧
      apply b ((cs.filter (a.byteLength < ·.stop)).map (Change.after a.byteLength)) = .ok y ∧
      x ++ y = t ∧ shift a.byteLength cs = x.byteLength := by
  obtain ⟨apart, ordered⟩ := h.ordered
  have stops : cs.Pairwise fun c d => c.stop ≤ d.stop := by
    apply apart.imp_of_mem
    intro c d hc hd hcd
    have := (ordered d hd).2
    omega
  have joined := ended_append_later stops a.byteLength
  have ended : ∀ c ∈ cs.filter (·.stop ≤ a.byteLength), c.stop ≤ a.byteLength := by simp
  have started : ∀ c ∈ cs.filter (a.byteLength < ·.stop),
      a.byteLength ≤ c.start ∧ a.byteLength < c.stop := by
    intro c hc
    obtain ⟨mem, later⟩ := List.mem_filter.mp hc
    have := outside c mem
    simp only [Change.Encloses, decide_eq_true_eq] at this later
    omega
  -- an insertion at the position has ended there, so the cut is behind it
  rw [← joined] at h
  obtain ⟨ds₁, ds₂, x, y, front, back, rfl⟩ := h.split hs (by simp)
    (fun c hc => by simpa using (started c hc).1)
  have position : shift a.byteLength cs = x.byteLength := by
    simp only [Addressable, Text.byteLength_append] at fits
    rw [shift_eq, ← joined, front.shiftFrom_append ended, Nat.zero_add, Nat.zero_add,
      shiftFrom_of_later started (Nat.le_refl _) (by omega), Nat.sub_self, Nat.add_zero]
  simp only [Nat.zero_add] at back
  exact ⟨x, y, front.apply_eq, back.apply_after, rfl, position⟩

theorem anchors (h : Paired 0 0 cs ds s t) (hs : Addressable s) (ht : Addressable t) :
    Anchors s cs t := by
  have old : 0 + s.byteLength < Change.limit := by simpa [Addressable] using hs
  have new : 0 + t.byteLength < Change.limit := by simpa [Addressable] using ht
  constructor
  · intro p q hpq hq
    exact h.shiftFrom_mono (Nat.zero_le p) hpq (by omega) new
  · intro p hp
    have := (h.shiftFrom_between (Nat.zero_le p) (by omega) new).2
    rw [shift_eq]
    omega
  · intro p hp
    exact h.shift_isBoundary hp ht
  · rintro before c later p rfl inside
    exact h.enclosed inside ht
  · intro a b hab outside
    exact h.parted hab outside ht
  · constructor
    · exact h.splice_eq
    · intro p hp outside
      have := h.splice_append (Nat.zero_le p) (by omega) outside new
      simpa [shift_eq] using this
  · refine ⟨ds, h.inverse?_eq ht, ?_⟩
    intro p hp outside
    exact h.shiftFrom_shiftFrom (Nat.zero_le p) (by omega) outside old new

end Paired

/-- Changes that fit a text can be applied to it, and every position of the text comes to lie
where its surroundings do. -/
theorem shift_anchors {s : Text} {cs : List Change} (fits : Fits cs s)
    (addressable : Addressable s) :
    ∃ t, apply s cs = .ok t ∧ (Addressable t → Anchors s cs t) := by
  obtain ⟨inverse, t, paired⟩ := fits.exists_paired
  exact ⟨t, paired.apply_eq, paired.anchors addressable⟩

/-- An insertion in front of a replaced character, and another one between two that are kept. The
second byte of a character that is kept stays the second byte. -/
theorem shift_anchors_accents :
    let s : Text := ['a', 'é', 'b', 'é']
    let cs : List Change := [⟨1, 1, ['x']⟩, ⟨1, 3, ['y']⟩, ⟨4, 4, ['é']⟩]
    let t : Text := ['a', 'x', 'y', 'b', 'é', 'é']
    Fits cs s ∧ Addressable s ∧ apply s cs = .ok t ∧ Addressable t ∧ Anchors s cs t ∧
      (List.range 7).map (shift · cs) = [0, 2, 3, 3, 6, 7, 8] := by
  intro s cs t
  have fits : Fits cs s := by decide
  have applied : apply s cs = .ok t := fits.apply_eq.trans (by decide)
  obtain ⟨u, same, anchors⟩ := shift_anchors fits (by decide)
  obtain rfl : t = u := Except.ok.inj (applied.symm.trans same)
  exact ⟨fits, by decide, applied, by decide, anchors (by decide), by decide⟩

end FormatService.Edit
