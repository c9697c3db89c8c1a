import Mathlib.Data.List.TakeDrop
import FormatService.Edit.Difference

/-!
# Scripts and the texts in them

Every stage that shapes a script keeps the text before the edits and the text
after them. So the difference of two texts contains both, and that of a text and
itself has no edit. Bounds on the work done never enter: a stage that stops early
has kept both texts as well.
-/

set_option autoImplicit false

namespace FormatService.Edit

open Script (ofParts)

theorem drop_sharedEnd (s t : Text) :
    s.drop (s.length - sharedEnd s t) = t.drop (t.length - sharedEnd s t) := by
  have h := take_sharedStart s.reverse t.reverse
  rw [List.take_reverse, List.take_reverse] at h
  exact List.reverse_inj.1 h

theorem sharedStart_self (s : Text) : sharedStart s s = s.length := by
  induction s with
  | nil => rfl
  | cons a s ih => simp [sharedStart, ih]

theorem shared_ends (s t k u : Text) :
    let start := sharedStart s t
    let s' := s.drop start
    let t' := t.drop start
    let stop := sharedEnd s' t'
    k ++ s.take start ++ s'.take (s'.length - stop) ++ (s'.drop (s'.length - stop) ++ u) =
        k ++ s ++ u ∧
      k ++ s.take start ++ t'.take (t'.length - stop) ++ (s'.drop (s'.length - stop) ++ u) =
        k ++ t ++ u := by
  have rejoin (a : Text) (m n : Nat) : k ++ a.take m ++ (a.drop m).take n ++
      ((a.drop m).drop n ++ u) = k ++ a ++ u := by
    rw [List.append_assoc, ← List.append_assoc (List.take n _), List.take_append_drop,
      List.append_assoc k, ← List.append_assoc (a.take m), List.take_append_drop,
      List.append_assoc]
  constructor
  · exact rejoin s _ _
  · rw [drop_sharedEnd, take_sharedStart]
    exact rejoin t _ _

namespace Script

def SameTexts (a b : Script) : Prop := old a = old b ∧ new a = new b

@[simp] theorem old_nil : old [] = [] := rfl

@[simp] theorem new_nil : new [] = [] := rfl

@[simp] theorem old_cons (c : Chunk) (s : Script) : old (c :: s) = c.old ++ old s := rfl

@[simp] theorem new_cons (c : Chunk) (s : Script) : new (c :: s) = c.new ++ new s := rfl

theorem SameTexts.refl (s : Script) : SameTexts s s := ⟨rfl, rfl⟩

theorem SameTexts.trans {a b c : Script} (h : SameTexts a b) (k : SameTexts b c) :
    SameTexts a c := ⟨h.1.trans k.1, h.2.trans k.2⟩

theorem SameTexts.cons {a b : Script} (c : Chunk) (h : SameTexts a b) :
    SameTexts (c :: a) (c :: b) := by
  simp [SameTexts, h.1, h.2]

theorem SameTexts.append {a a' b b' : Script} (h : SameTexts a a') (k : SameTexts b b') :
    SameTexts (a ++ b) (a' ++ b') := by
  simp [SameTexts, h.1, h.2, k.1, k.2]

end Script

open Script

/-! ## Merging -/

theorem gather_texts (kept deleted inserted : Text) (s : Script) :
    old (gather kept deleted inserted s) = kept ++ deleted ++ old s ∧
      new (gather kept deleted inserted s) = kept ++ inserted ++ new s := by
  fun_induction gather kept deleted inserted s with
  | case1 k d i t rest ih => simpa [Chunk.old, Chunk.new] using ih
  | case2 k d i t rest ih => simpa [Chunk.old, Chunk.new] using ih
  | case3 k d i t rest h ih => simpa [h.1, h.2, Chunk.old, Chunk.new] using ih
  | case4 k d i t rest h start d' i' stop ih =>
    have hd := (shared_ends d i k (t ++ old rest)).1
    have hi := (shared_ends d i k (t ++ new rest)).2
    simp only [old_append, new_append, old_ofParts, new_ofParts, ih.1, ih.2, old_cons, new_cons,
      Chunk.old, Chunk.new, List.append_nil, List.append_assoc] at hd hi ⊢
    exact ⟨hd, hi⟩
  | case5 k d i start d' i' stop =>
    obtain ⟨hd, hi⟩ := shared_ends d i k []
    simp only [old_append, new_append, old_ofParts, new_ofParts, old_nil, new_nil,
      List.append_nil] at hd hi ⊢
    exact ⟨hd, hi⟩

theorem slide_left {edit : Chunk} (a b text : Text) (rest : Script) (he : edit.isKeep = false)
    (h : edit.text = text ++ a) :
    SameTexts (edit.withText (a ++ text) :: .keep (a ++ b) :: rest)
      (.keep a :: edit :: .keep b :: rest) := by
  cases edit <;> simp_all [SameTexts, Chunk.isKeep, Chunk.text, Chunk.withText, Chunk.old, Chunk.new]

theorem slide_right {edit : Chunk} (a b text : Text) (rest : Script) (he : edit.isKeep = false)
    (h : edit.text = b ++ text) :
    SameTexts (.keep (a ++ b) :: edit.withText (text ++ b) :: rest)
      (.keep a :: edit :: .keep b :: rest) := by
  cases edit <;> simp_all [SameTexts, Chunk.isKeep, Chunk.text, Chunk.withText, Chunk.old, Chunk.new]

theorem take_of_isSuffixOf {a t : Text} (h : a.isSuffixOf t = true) :
    t = t.take (t.length - a.length) ++ a := by
  obtain ⟨u, rfl⟩ := List.isSuffixOf_iff_suffix.1 h
  simp

theorem drop_of_isPrefixOf {b t : Text} (h : b.isPrefixOf t = true) :
    t = b ++ t.drop b.length := by
  obtain ⟨u, rfl⟩ := List.isPrefixOf_iff_prefix.1 h
  simp

theorem moveOver_texts (s : Script) : SameTexts (moveOver s).1 s := by
  fun_induction moveOver s with
  | case1 a edit b rest hk s moved hm ih => exact .cons _ (by simpa [hm] using ih)
  | case2 a edit b rest hk hs text s moved hm ih =>
    have hs' := slide_left a b _ rest (by simpa using hk) (take_of_isSuffixOf hs)
    refine SameTexts.trans (.cons _ ?_) hs'
    simpa [hm] using ih
  | case3 a edit b rest hk hs hp text s moved hm ih =>
    have hp' := slide_right a b _ rest (by simpa using hk) (drop_of_isPrefixOf hp)
    refine SameTexts.trans (.cons _ ?_) hp'
    simpa [hm] using ih
  | case4 a edit b rest hk hs hp s moved hm ih => exact .cons _ (by simpa [hm] using ih)
  | case5 c rest h s moved hm ih => exact .cons _ (by simpa [hm] using ih)
  | case6 => exact .refl _

theorem mergeRounds_texts (n : Nat) (s : Script) : SameTexts (mergeRounds n s) s := by
  have round (s : Script) : SameTexts (moveOver (gather [] [] [] s)).1 s :=
    (moveOver_texts _).trans (by simpa [SameTexts] using gather_texts [] [] [] s)
  fun_induction mergeRounds n s with
  | case1 s => exact .refl s
  | case2 n s t h ih => exact ih.trans (by simpa [h] using round s)
  | case3 n s t h => simpa [h] using round s

theorem merge_texts (s : Script) : SameTexts (merge s) s := mergeRounds_texts _ s

/-! ## Readable scripts -/

theorem splitLastKeep_append (s : Script) : (splitLastKeep s).1 ++ (splitLastKeep s).2 = s := by
  rw [splitLastKeep, List.span_eq_takeWhile_dropWhile]
  exact List.takeWhile_append_dropWhile

theorem dropNoise_texts {passed rest passed' rest' : Script}
    (h : dropNoise passed rest = some (passed', rest')) :
    SameTexts (passed'.reverse ++ rest') (passed.reverse ++ rest) := by
  have hp := splitLastKeep_append passed
  unfold dropNoise at h
  split at h
  · next after t before hsplit =>
    rw [hsplit] at hp
    have hb := splitLastKeep_append before
    have redone : SameTexts (before.reverse ++ .delete t :: .insert t :: (after.reverse ++ rest))
        (passed.reverse ++ rest) := by
      simp [SameTexts, ← hp, Chunk.old, Chunk.new]
    refine SameTexts.trans ?_ redone
    split at h
    · next between previous further hsplit' =>
      have hf := splitLastKeep_append further
      rw [hsplit'] at hb
      generalize splitLastKeep further = parts at h hf
      obtain ⟨edits, anchor⟩ := parts
      obtain ⟨rfl, rfl⟩ := Prod.mk.inj (Option.some.inj h)
      simp [SameTexts, ← hb, ← hf]
    · next between hsplit' =>
      obtain ⟨rfl, rfl⟩ := Prod.mk.inj (Option.some.inj h)
      rw [hsplit'] at hb
      simp [SameTexts, ← hb]
  · contradiction

theorem removeNoise_texts (n : Nat) (w : Walk) (s : Script) :
    SameTexts (removeNoise n w s) (w.passed.reverse ++ s) := by
  fun_induction removeNoise n w s with
  | case1 => simp [SameTexts]
  | case2 => exact .refl _
  | case3 n w t rest ih => simpa [SameTexts] using ih
  | case4 n w edit rest h w' hn passed rest' hd ih =>
    have hd' := dropNoise_texts hd
    exact ih.trans (by simpa [Walk.start, w', SameTexts] using hd')
  | case5 n w edit rest h w' hn hd => simp [SameTexts, w']
  | case6 n w edit rest h w' hn ih => simpa [SameTexts, w'] using ih

/-- The edit as placed lies in the longer text, and the shorter one is left without it. -/
def Placement.Between (p : Placement) (s t : Text) : Prop :=
  p.before ++ p.edit ++ p.after = s ∧ p.before ++ p.after = t

theorem leftmost_between {p : Placement} {s t : Text} (h : p.Between s t) :
    p.leftmost.Between s t := by
  obtain ⟨before, edit, after⟩ := p
  have hc := drop_sharedEnd before edit
  have hb := List.take_append_drop (before.length - sharedEnd before edit) before
  have he := List.take_append_drop (edit.length - sharedEnd before edit) edit
  obtain ⟨rfl, rfl⟩ := h
  simp only [Placement.Between, Placement.leftmost]
  rw [hc] at hb
  generalize before.take (before.length - sharedEnd before edit) = x at hb ⊢
  generalize edit.take (edit.length - sharedEnd before edit) = y at he ⊢
  generalize edit.drop (edit.length - sharedEnd before edit) = c at hb he ⊢
  subst hb he
  simp

theorem bestFrom_between {before edit after s t : Text} {best : Placement}
    (hb : best.Between s t) (h : Placement.Between ⟨before, edit, after⟩ s t) :
    (Placement.bestFrom before edit best after).Between s t := by
  fun_induction Placement.bestFrom before edit best after with
  | case1 => exact hb
  | case2 => exact hb
  | case3 before best n after es next ih =>
    have hn : next.Between s t := by simpa [Placement.Between, next] using h
    exact ih (by split <;> assumption) hn
  | case4 => exact hb

theorem best_between {p : Placement} {s t : Text} (h : p.Between s t) : p.best.Between s t :=
  bestFrom_between (leftmost_between h) (leftmost_between h)

theorem edit_between (a e b : Text) : Placement.Between ⟨a, e, b⟩ (a ++ e ++ b) (a ++ b) := ⟨rfl, rfl⟩

theorem place_texts {a b : Text} {edit : Chunk} {p : Placement} (rest : Script)
    (he : edit.isKeep = false) (h : p.Between (a ++ edit.text ++ b) (a ++ b)) :
    SameTexts (ofParts p.before [] [] ++ edit.withText p.edit :: .keep p.after :: rest)
      (.keep a :: edit :: .keep b :: rest) := by
  obtain ⟨hs, ht⟩ := h
  cases edit with
  | keep t => contradiction
  | delete t =>
    simp only [Chunk.text] at hs
    simp [SameTexts, old_ofParts, new_ofParts, Chunk.old, Chunk.new, Chunk.withText,
      ← List.append_assoc, hs, ht]
  | insert t =>
    simp only [Chunk.text] at hs
    simp [SameTexts, old_ofParts, new_ofParts, Chunk.old, Chunk.new, Chunk.withText,
      ← List.append_assoc, hs, ht]

theorem align_texts (s : Script) : SameTexts (align s) s := by
  fun_induction align s with
  | case1 a edit b rest hk ih => exact .cons _ ih
  | case2 a edit b rest hk best head ha ih =>
    refine SameTexts.trans (.append (.refl head) ih) ?_
    have hp := place_texts rest (by simpa using hk) (best_between (edit_between a edit.text b))
    simpa [head, best, ha, ofParts, SameTexts, Chunk.old, Chunk.new] using hp
  | case3 a edit b rest hk best head ha ih =>
    refine SameTexts.trans (.append (.refl head) ih) ?_
    simpa [head] using place_texts rest (by simpa using hk) (best_between (edit_between a edit.text b))
  | case4 c rest h ih => exact .cons _ ih
  | case5 => exact .refl _

theorem overlapUpTo_shared (s t : Text) (n : Nat) :
    s.drop (s.length - overlapUpTo s t n) = t.take (overlapUpTo s t n) := by
  induction n with
  | zero => simp [overlapUpTo]
  | succ n ih =>
    rw [overlapUpTo]
    split
    · assumption
    · exact ih

theorem drop_overlap (s t : Text) : s.drop (s.length - overlap s t) = t.take (overlap s t) :=
  overlapUpTo_shared s t _

theorem keep_end_start {d i : Text} {n : Nat} (rest : Script)
    (h : d.drop (d.length - n) = i.take n) :
    SameTexts (.delete (d.take (d.length - n)) :: .keep (i.take n) :: .insert (i.drop n) :: rest)
      (.delete d :: .insert i :: rest) := by
  have hd := List.take_append_drop (d.length - n) d
  have hi := List.take_append_drop n i
  rw [h] at hd
  simp only [SameTexts, old_cons, new_cons, Chunk.old, Chunk.new, List.nil_append]
  rw [← List.append_assoc, ← List.append_assoc, hd, hi]
  exact ⟨rfl, rfl⟩

theorem keep_start_end {d i : Text} {n : Nat} (rest : Script)
    (h : i.drop (i.length - n) = d.take n) :
    SameTexts (.insert (i.take (i.length - n)) :: .keep (d.take n) :: .delete (d.drop n) :: rest)
      (.delete d :: .insert i :: rest) := by
  have hi := List.take_append_drop (i.length - n) i
  have hd := List.take_append_drop n d
  rw [h] at hi
  simp only [SameTexts, old_cons, new_cons, Chunk.old, Chunk.new, List.nil_append]
  rw [← List.append_assoc, ← List.append_assoc, hd, hi]
  exact ⟨rfl, rfl⟩

theorem keepOverlaps_texts (s : Script) : SameTexts (keepOverlaps s) s := by
  fun_induction keepOverlaps s with
  | case1 d i rest forth back shorter h h' ih =>
    exact SameTexts.trans (.cons _ (.cons _ (.cons _ ih))) (keep_end_start rest (drop_overlap d i))
  | case2 d i rest forth back shorter h h' ih => exact .cons _ (.cons _ ih)
  | case3 d i rest forth back shorter h h' ih =>
    exact SameTexts.trans (.cons _ (.cons _ (.cons _ ih))) (keep_start_end rest (drop_overlap i d))
  | case4 d i rest forth back shorter h h' ih => exact .cons _ (.cons _ ih)
  | case5 c rest h ih => exact .cons _ ih
  | case6 => exact .refl _

theorem polish_texts (s : Script) : SameTexts (polish s) s := by
  have quiet : SameTexts (withoutNoise s) s := by
    simpa [withoutNoise, Walk.start] using removeNoise_texts _ (.start []) s
  refine (keepOverlaps_texts _).trans ((align_texts _).trans ?_)
  split
  · exact quiet
  · exact (merge_texts _).trans quiet

/-! ## Comparison -/

theorem append_of_find? {pattern t : Text} {n : Nat} (h : Text.find? pattern t = some n) :
    t = t.take n ++ pattern ++ t.drop (n + pattern.length) := by
  induction t generalizing n with
  | nil =>
    simp only [Text.find?] at h
    split at h
    · simp_all
    · contradiction
  | cons c t ih =>
    simp only [Text.find?] at h
    split at h
    · next hp =>
      obtain rfl := Option.some.inj h
      simpa using drop_of_isPrefixOf hp
    · obtain ⟨m, hm, rfl⟩ := Option.map_eq_some_iff.1 h
      rw [Nat.add_right_comm]
      simpa using ih hm

theorem replacement_texts (s t : Text) : old (replacement s t) = s ∧ new (replacement s t) = t :=
  ⟨old_ofParts _ _ _, new_ofParts _ _ _⟩

theorem containment_texts {s t : Text} {script : Script} (h : containment? s t = some script) :
    old script = s ∧ new script = t := by
  unfold containment? at h
  split at h
  · obtain ⟨n, hn, rfl⟩ := Option.map_eq_some_iff.1 h
    have hs := append_of_find? hn
    simpa [Chunk.old, Chunk.new] using hs.symm
  · obtain ⟨n, hn, rfl⟩ := Option.map_eq_some_iff.1 h
    have ht := append_of_find? hn
    simpa [Chunk.old, Chunk.new] using ht.symm

theorem compareTexts_of_middles {depth : Nat}
    (h : ∀ s t, old (compareMiddles depth s t) = s ∧ new (compareMiddles depth s t) = t)
    (s t : Text) : old (compareTexts depth s t) = s ∧ new (compareTexts depth s t) = t := by
  have hs := (shared_ends s t [] []).1
  have ht := (shared_ends s t [] []).2
  rw [compareTexts]
  refine ⟨(merge_texts _).1.trans ?_, (merge_texts _).2.trans ?_⟩
  · simpa only [old_append, old_ofParts, h, List.append_nil, List.nil_append] using hs
  · simpa only [new_append, new_ofParts, h, List.append_nil, List.nil_append] using ht

theorem compareMiddles_texts (depth : Nat) (s t : Text) :
    old (compareMiddles depth s t) = s ∧ new (compareMiddles depth s t) = t := by
  induction depth generalizing s t with
  | zero =>
    rw [compareMiddles]
    split
    · exact replacement_texts s t
    · split
      · next hc => exact containment_texts hc
      · split <;> exact replacement_texts s t
  | succ depth ih =>
    rw [compareMiddles]
    split
    · exact replacement_texts s t
    · split
      · next hc => exact containment_texts hc
      · split
        · exact replacement_texts s t
        · split
          · next x y _ =>
            have hl := compareTexts_of_middles ih (s.take x) (t.take y)
            have hr := compareTexts_of_middles ih (s.drop x) (t.drop y)
            simp [hl.1, hl.2, hr.1, hr.2]
          · exact replacement_texts s t

theorem difference_texts (s t : Text) : old (difference s t) = s ∧ new (difference s t) = t := by
  have h := compareTexts_of_middles (compareMiddles_texts (s.length + t.length)) s t
  have hp := (merge_texts _).trans (polish_texts (compareTexts (s.length + t.length) s t))
  exact ⟨hp.1.trans h.1, hp.2.trans h.2⟩

/-! ## A text and itself -/

theorem merge_kept (s : Text) : merge (ofParts s [] []) = ofParts s [] [] := by
  by_cases h : s = [] <;>
    simp [h, ofParts, merge, mergeRounds, gather, moveOver, sharedStart, sharedEnd]

theorem polish_kept (s : Text) : polish (ofParts s [] []) = ofParts s [] [] := by
  by_cases h : s = [] <;>
    simp [h, ofParts, polish, withoutNoise, removeNoise, Walk.start, align, keepOverlaps, keeps,
      Chunk.isKeep]

theorem compareTexts_self (depth : Nat) (s : Text) : compareTexts depth s s = ofParts s [] [] := by
  rw [compareTexts, sharedStart_self, List.drop_length, List.take_length]
  have hm : compareMiddles depth [] [] = [] := by
    rw [compareMiddles.eq_def, if_pos (Or.inl rfl)]
    rfl
  simpa [sharedEnd, sharedStart, hm, ofParts] using merge_kept s

theorem difference_self (s : Text) : difference s s = ofParts s [] [] := by
  rw [difference, compareTexts_self, polish_kept, merge_kept]

end FormatService.Edit
