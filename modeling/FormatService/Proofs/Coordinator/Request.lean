import FormatService.Proofs.Host.Request
import FormatService.Proofs.Coordinator.Rebuild

/-!
# What a coordinator asks of its host

A rebuild asks for one search per key that has no override, all at its start. Apart from
these searches there are diagnostics only: a rebuild that is refused, or that finds the
coordinator disposed, asks for nothing else, and no rebuild runs a command.
-/

set_option autoImplicit false

namespace FormatService.Coordinator

open Host (Asked)

variable {σ : Type}

/-- No rebuild can take the slot: another one has it, or the coordinator is disposed of. -/
def Barred (c : Coordinator σ) : Prop := c.rebuilding = true ∨ c.disposed = true

theorem barred_or_open (c : Coordinator σ) :
    c.Barred ∨ c.rebuilding = false ∧ c.disposed = false := by
  cases hr : c.rebuilding with
  | true => exact .inl (.inl hr)
  | false =>
    cases hd : c.disposed with
    | true => exact .inl (.inr hd)
    | false => exact .inr ⟨rfl, rfl⟩

variable [Host σ]

def searched (c : Coordinator σ) : List CacheKey :=
  (CacheKey.forRoots c.roots).filter fun key => (c.override? key.tool).isNone

theorem plan_searches (c : Coordinator σ) : c.plan.searches = c.searched := by
  simp [plan, Rebuild.searches, searched, List.filter_map, Function.comp_def]

theorem setRoots_asked (roots : List ProjectRoot) (c : Coordinator σ) :
    Asked Event.isNote c.host (c.setRoots roots).host :=
  Host.debug_asked _ _

theorem setTool_asked (tool : Tool) (c : Coordinator σ) :
    Asked Event.isNote c.host (c.setTool tool).host :=
  Host.debug_asked _ _

theorem issueSearches_eq (keys : List CacheKey) (h : σ) :
    issueSearches keys h = Host.serve (keys.map fun key => .search key.tool key.root) h := by
  rw [issueSearches, Host.serve, List.foldl_map]
  rfl

theorem beginRebuild_eq {c : Coordinator σ} (free : c.rebuilding = false)
    (live : c.disposed = false) :
    c.beginRebuild =
      ({ c with host := Host.serve (c.searched.map fun key => .search key.tool key.root) c.host
                rebuilding := true }, .searching c.plan) := by
  rw [← issueSearches_eq, ← plan_searches, beginRebuild, if_neg (by rw [free]; decide),
    if_neg (by rw [live]; decide)]
  rfl

theorem beginRebuild_refused {c : Coordinator σ} (busy : c.rebuilding = true) :
    ∃ host, c.beginRebuild = ({ c with host := host }, .refused) ∧
      Asked Event.isNote c.host host :=
  ⟨_, by rw [beginRebuild, if_pos busy]; rfl, Host.debug_asked _ _⟩

theorem Barred.beginRebuild {c : Coordinator σ} (h : c.Barred) :
    ∃ begun host, c.beginRebuild = ({ c with host := host }, begun) ∧
      (∀ rebuild, begun ≠ .searching rebuild) ∧ Asked Event.isNote c.host host := by
  by_cases busy : c.rebuilding = true
  · obtain ⟨host, hb, asked⟩ := beginRebuild_refused busy
    exact ⟨.refused, host, hb, nofun, asked⟩
  · have late : c.disposed = true := h.resolve_left busy
    exact ⟨.aborted, c.host, by rw [Coordinator.beginRebuild, if_neg busy, if_pos late], nofun,
      .refl _⟩

theorem report_asked (resolutions : List (CacheKey × Option String)) (h : σ) :
    Asked Event.isNote h (report resolutions h) := by
  induction resolutions generalizing h with
  | nil => exact .refl h
  | cons r resolutions ih => exact (Host.debug_asked _ h).trans (ih _)

theorem finishRebuild_asked (rebuild : Rebuild) (c : Coordinator σ) :
    Asked Event.isNote c.host (c.finishRebuild rebuild).1.host := by
  rw [finishRebuild]
  split
  · exact Host.complain_asked _ _
  · next resolutions _ =>
    have h := report_asked resolutions c.host
    simp only
    split <;> exact h

theorem Barred.rebuild {c : Coordinator σ} (h : c.Barred) :
    ∃ host, c.rebuild = ({ c with host := host }, false) ∧ Asked Event.isNote c.host host := by
  obtain ⟨begun, host, hb, hn, asked⟩ := h.beginRebuild
  refine ⟨host, ?_, asked⟩
  rw [Coordinator.rebuild, hb]
  cases begun with
  | searching rebuild => exact absurd rfl (hn rebuild)
  | _ => rfl

theorem rebuild_searches {c : Coordinator σ} (free : c.rebuilding = false)
    (live : c.disposed = false) :
    ∃ notes, (∀ e ∈ notes, e.isNote = true) ∧
      c.rebuild.1.host =
        Host.serve (c.searched.map (fun key => .search key.tool key.root) ++ notes) c.host := by
  rw [rebuild, beginRebuild_eq free live]
  obtain ⟨notes, late, served⟩ := finishRebuild_asked c.plan
    { c with host := Host.serve (c.searched.map fun key => .search key.tool key.root) c.host
             rebuilding := true }
  refine ⟨notes, late, ?_⟩
  rw [Host.serve_append]
  exact served

theorem rebuild_asked (c : Coordinator σ) :
    Asked (fun e => e.isSearch || e.isNote) c.host c.rebuild.1.host := by
  rcases c.barred_or_open with barred | ⟨free, live⟩
  · obtain ⟨host, hr, asked⟩ := barred.rebuild
    rw [hr]
    exact asked.mono (by simp +contextual)
  · obtain ⟨notes, late, served⟩ := rebuild_searches free live
    refine ⟨_, fun e he => ?_, served⟩
    rcases List.mem_append.mp he with early | he
    · obtain ⟨key, -, rfl⟩ := List.mem_map.mp early
      rfl
    · simp [late e he]

end FormatService.Coordinator
