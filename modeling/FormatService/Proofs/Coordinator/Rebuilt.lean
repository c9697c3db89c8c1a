import FormatService.Proofs.Host.Steady
import FormatService.Proofs.Coordinator.Format

/-!
# Coordinators that have nothing to gain from a rebuild

On a steady host a rebuild finds what the one before it has found. A coordinator that
was rebuilt stays as it is from then on, also when a tool that is not there makes it
rebuild again, and what comes of a request to format depends on no earlier one.
-/

set_option autoImplicit false

namespace FormatService

open Host (Asked Steady replies)

namespace Event

variable {e : Event} {events : List Event}

theorem not_isWrite_of_quiet (h : (e.isSearch || e.isNote) = true) : e.isWrite = false := by
  cases e with
  | write path text => contradiction
  | _ => rfl

theorem not_isRun_of_quiet (h : (e.isSearch || e.isNote) = true) : e.isRun = false := by
  cases e with
  | run command arguments directory input => contradiction
  | _ => rfl

theorem filter_isRun_of_quiet (h : ∀ e ∈ events, (e.isSearch || e.isNote) = true) :
    events.filter isRun = [] :=
  filter_eq_nil fun e he => not_isRun_of_quiet (h e he)

end Event

structure ToolCall where
  command : String
  arguments : List String
  directory : Path
  input : Text
  deriving DecidableEq, Repr

def ToolCall.event (call : ToolCall) : Event :=
  .run call.command call.arguments call.directory call.input

def Replies.answer (a : Replies) (call : ToolCall) : Except Failure Run :=
  a.run call.command call.arguments call.directory call.input

/-- What becomes of a document when the tool has answered, or there is no tool to ask. -/
def Delivers (b : Buffer) : Option (Except Failure Run) → Buffer → Outcome → Prop
  | none, b', outcome => outcome = .toolNotFound ∧ b' = b
  | some answer, b', outcome => Settles b answer b' outcome

theorem Settles.unique {b b₁ b₂ : Buffer} {answer : Except Failure Run} {o₁ o₂ : Outcome}
    (h₁ : Settles b answer b₁ o₁) (h₂ : Settles b answer b₂ o₂) :
    o₁ = o₂ ∧ b₁.document.text = b₂.document.text := by
  have formatted := h₁.formatted.trans h₂.formatted.symm
  have unchanged := h₁.unchanged.trans h₂.unchanged.symm
  have same : o₁ = o₂ := by
    rcases h₁.otherwise with h | h | h
    · exact h.trans (formatted.mp h).symm
    · exact h.trans (unchanged.mp h).symm
    · rcases h₂.otherwise with h' | h' | h'
      · exact (formatted.mpr h').trans h'.symm
      · exact (unchanged.mpr h').trans h'.symm
      · exact h.trans h'.symm
  refine ⟨same, ?_⟩
  by_cases h : o₁ = .formatted
  · obtain ⟨run, ha, -, -, text⟩ := h₁.output h
    obtain ⟨run', ha', -, -, text'⟩ := h₂.output (same ▸ h)
    obtain rfl := Except.ok.inj (ha.symm.trans ha')
    exact text.trans text'.symm
  · rw [h₁.kept h, h₂.kept (same ▸ h)]

namespace Delivers

variable {b b' b₁ b₂ : Buffer} {answer : Option (Except Failure Run)} {o o₁ o₂ : Outcome}

theorem unique (h₁ : Delivers b answer b₁ o₁) (h₂ : Delivers b answer b₂ o₂) :
    o₁ = o₂ ∧ b₁.document.text = b₂.document.text := by
  cases answer with
  | none => exact ⟨h₁.1.trans h₂.1.symm, by rw [h₁.2, h₂.2]⟩
  | some answer => exact Settles.unique h₁ h₂

theorem kept (h : Delivers b answer b' o) (other : o ≠ .formatted) : b' = b := by
  cases answer with
  | none => exact h.2
  | some answer => exact Settles.kept h other

end Delivers

namespace Coordinator

variable {σ : Type}

theorem concluded_concluded (rebuild : Rebuild)
    (found : Option (List (CacheKey × Option String))) (c : Coordinator σ) (h : σ) :
    concluded rebuild found { concluded rebuild found c with host := h } =
      { concluded rebuild found c with host := h } := by
  cases found <;> rfl

variable [Host σ]

theorem answers_congr {h h' : σ} (same : (replies h').search = (replies h).search)
    (lookups : List (CacheKey × Option String)) : answers h' lookups = answers h lookups := by
  induction lookups with
  | nil => rfl
  | cons lookup lookups ih =>
    obtain ⟨key, path⟩ := lookup
    have search : Host.answerSearch key.tool key.root h' = Host.answerSearch key.tool key.root h :=
      congrFun (congrFun same key.tool) key.root
    cases path with
    | some path => rw [answers, answers, ih]
    | none => rw [answers, answers, ih, search]

theorem plan_congr {c : Coordinator σ} {h : σ}
    (same : (replies h).present = (replies c.host).present) :
    plan { c with host := h } = c.plan := by
  have override : override? { c with host := h } = c.override? := by
    funext tool
    exact congrArg (fun present : Path → Bool =>
      (c.settings.toolPaths.get tool).filter fun path => present ⟨path⟩) same
  rw [plan, override]
  rfl

theorem found?_congr {c : Coordinator σ} {h : σ} (rebuild : Rebuild)
    (same : (replies h).search = (replies c.host).search) :
    found? rebuild { c with host := h } = c.found? rebuild := by
  rw [found?, found?, answers_congr same]

theorem rebuild_eq {c : Coordinator σ} (steady : Steady c.host) (free : c.rebuilding = false)
    (live : c.disposed = false) :
    ∃ h, c.rebuild.1 = { concluded c.plan (c.found? c.plan) c with host := h } := by
  rw [rebuild, beginRebuild_eq free live]
  let searching := Host.serve (c.searched.map fun key => .search key.tool key.root) c.host
  have same : replies searching = replies c.host := steady.quiet (by simp [Event.isWrite])
  obtain ⟨h, finished⟩ := finishRebuild_eq c.plan { c with host := searching, rebuilding := true }
  refine ⟨h, ?_⟩
  have found : found? c.plan { c with host := searching, rebuilding := true } = c.found? c.plan :=
    found?_congr c.plan (congrArg Replies.search same)
  simp only
  rw [finished, found, concluded_begun]

theorem replies_rebuild {c : Coordinator σ} (steady : Steady c.host) :
    replies c.rebuild.1.host = replies c.host := by
  obtain ⟨events, asked, served⟩ := c.rebuild_asked
  rw [served]
  exact steady.quiet fun e he => Event.not_isWrite_of_quiet (asked e he)

/-- No rebuild is going on, and one that would now be made would change nothing. -/
structure Rebuilt (c : Coordinator σ) : Prop where
  free : c.rebuilding = false
  live : c.disposed = false
  again : concluded c.plan (c.found? c.plan) c = c

def call? (b : Buffer) (c : Coordinator σ) : Option ToolCall :=
  let project := ProjectRoot.projectOf c.roots b.document.file
  (c.resolved c.tool project).map fun command =>
    ⟨command, c.tool.arguments b.document.file, project.getD (Host.directory c.host),
      b.document.text⟩

theorem rebuild_rebuilt {c : Coordinator σ} (steady : Steady c.host) (free : c.rebuilding = false)
    (live : c.disposed = false) : c.rebuild.1.Rebuilt := by
  have same := replies_rebuild steady
  obtain ⟨h, hr⟩ := rebuild_eq steady free live
  rw [hr] at same ⊢
  obtain ⟨cache, paths, hc⟩ := concluded_eq c.plan (c.found? c.plan) c
  have plan : plan { concluded c.plan (c.found? c.plan) c with host := h } = c.plan := by
    rw [hc]
    exact plan_congr (congrArg Replies.present same)
  have found : found? c.plan { concluded c.plan (c.found? c.plan) c with host := h } =
      c.found? c.plan := by
    rw [hc]
    exact found?_congr c.plan (congrArg Replies.search same)
  refine ⟨concluded_rebuilding _ _ _, ?_, ?_⟩
  · exact (concluded_disposed c.plan (c.found? c.plan) c).trans live
  · rw [plan, found, concluded_concluded]

namespace Rebuilt

variable {c : Coordinator σ}

theorem move (rebuilt : c.Rebuilt) {h : σ} {read : Path → Except Failure Text}
    (same : replies h = (replies c.host).reading read) : Rebuilt { c with host := h } := by
  refine ⟨rebuilt.free, rebuilt.live, ?_⟩
  have present : (replies h).present = (replies c.host).present := by rw [same]; rfl
  have search : (replies h).search = (replies c.host).search := by rw [same]; rfl
  rw [plan_congr present, found?_congr _ search]
  have again : ({ concluded c.plan (c.found? c.plan) c with host := h } : Coordinator σ) =
      { c with host := h } := by rw [rebuilt.again]
  rw [← again]
  exact concluded_concluded c.plan (c.found? c.plan) c h

theorem call?_move {h : σ} {read : Path → Except Failure Text}
    (same : replies h = (replies c.host).reading read) (b : Buffer) :
    call? b { c with host := h } = c.call? b := by
  have directory : Host.directory h = Host.directory c.host := by
    change (replies h).directory = _
    rw [same]
    rfl
  rw [call?, call?, directory]
  rfl

theorem lookUp (rebuilt : c.Rebuilt) (steady : Steady c.host) (r : Request) :
    ∃ asked, c.lookUp r = { c with host := Host.serve asked c.host } ∧
      ∀ e ∈ asked, (e.isSearch || e.isNote) = true := by
  obtain ⟨asked, kinds, served⟩ := c.lookUp_asked r
  refine ⟨asked, ?_, kinds⟩
  rw [← served, Coordinator.lookUp]
  split
  · rfl
  · obtain ⟨h, hr⟩ := rebuild_eq steady rebuilt.free rebuilt.live
    rw [hr, rebuilt.again]

/-- A request to format an open document: at most one run of a command, whose answer decides on
everything, and a coordinator that stays as it is. -/
theorem format (rebuilt : c.Rebuilt) (steady : Steady c.host) {b : Buffer}
    (editable : b.document.editable = true) :
    let r := c.format b none none
    ∃ asked, r.1 = { c with host := Host.serve asked c.host } ∧
      (∀ e ∈ asked, (e.isSearch || e.isRun || e.isNote) = true) ∧
      asked.filter Event.isRun = (c.call? b).toList.map ToolCall.event ∧
      Delivers b ((c.call? b).map (replies c.host).answer) r.2.1 r.2.2 := by
  intro r
  let project := ProjectRoot.projectOf c.roots b.document.file
  obtain ⟨before, looked, early⟩ := rebuilt.lookUp steady (c.request b none none)
  have formats : Formats b c.tool b.document.file project
      { c with host := Host.serve before c.host } r := by
    rw [← looked]
    exact format_formats editable none none c
  have runs : ∃ after, (∀ e ∈ after, e.isNote = true) ∧
      r.1.host = Host.serve (before ++ (c.call? b).toList.map ToolCall.event ++ after) c.host ∧
        Delivers b ((c.call? b).map (replies c.host).answer) r.2.1 r.2.2 := by
    rw [call?]
    cases found : c.resolved c.tool project with
    | none =>
      obtain ⟨⟨after, late, served⟩, kept⟩ := formats.notRun found
      refine ⟨after, late, ?_, formats.missing.mpr found, kept⟩
      rw [Host.serve_append, Option.map_none, Option.toList_none, List.map_nil, List.append_nil]
      exact served
    | some command =>
      have same : replies (Host.serve before c.host) = replies c.host :=
        steady.quiet fun e he => Event.not_isWrite_of_quiet (early e he)
      have directory : Host.directory (Host.serve before c.host) = Host.directory c.host :=
        congrArg Replies.directory same
      have run := formats.run command found
      simp only [directory] at run
      obtain ⟨⟨after, late, served⟩, settles⟩ := run
      refine ⟨after, late, ?_, ?_⟩
      · rw [Host.serve_append, Host.serve_append]
        exact served
      · rw [← same]
        exact settles
  obtain ⟨after, late, served, delivers⟩ := runs
  have coordinator := formats.coordinator.trans (congrArg (fun h => { c with host := h }) served)
  have calls : ∀ e ∈ (c.call? b).toList.map ToolCall.event, e.isRun = true := by
    intro e he
    obtain ⟨call, -, rfl⟩ := List.mem_map.mp he
    rfl
  refine ⟨_, coordinator, ?_, ?_, delivers⟩
  · intro e he
    rcases List.mem_append.mp he with he | he
    · rcases List.mem_append.mp he with he | he
      · have kind := early e he
        grind
      · simp [calls e he]
    · simp [late e he]
  · have quiet : ∀ e ∈ after, (e.isSearch || e.isNote) = true := fun e he => by simp [late e he]
    rw [List.filter_append, List.filter_append, Event.filter_isRun_of_quiet early,
      Event.filter_isRun_of_quiet quiet, List.filter_eq_self.mpr calls, List.nil_append,
      List.append_nil]

theorem format_move (rebuilt : c.Rebuilt) (steady : Steady c.host) {h : σ} (steady' : Steady h)
    {read : Path → Except Failure Text} (same : replies h = (replies c.host).reading read)
    {b : Buffer} (editable : b.document.editable = true) :
    (Coordinator.format b none none { c with host := h }).2.2 = (c.format b none none).2.2 ∧
      (Coordinator.format b none none { c with host := h }).2.1.document.text =
        (c.format b none none).2.1.document.text := by
  obtain ⟨-, -, -, -, delivers⟩ := rebuilt.format steady editable
  obtain ⟨-, -, -, -, delivers'⟩ := (rebuilt.move same).format steady' editable
  have run : (replies h).answer = (replies c.host).answer := by
    rw [same]
    rfl
  rw [call?_move same] at delivers'
  change Delivers b ((c.call? b).map (replies h).answer) _ _ at delivers'
  rw [run] at delivers'
  exact delivers'.unique delivers

end Rebuilt

end Coordinator

end FormatService
