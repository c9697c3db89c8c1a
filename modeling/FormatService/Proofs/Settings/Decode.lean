import FormatService.Settings.Decode
import FormatService.Proofs.Except
import FormatService.Proofs.Json.Occurrence

/-!
# Values that stand for settings

A value is accepted if it is an object of known members, or an array of at most three items that
stand for them in order, and if each of them says what it has to. What is absent has its default.
Every other value is refused.
-/

set_option autoImplicit false

namespace FormatService

theorem ToolPaths.eq_iff {p q : ToolPaths} :
    p = q ↔ ∀ tool path, p.get tool = some path ↔ q.get tool = some path := by
  refine ⟨fun same => by simp [same], fun same => ?_⟩
  have each : ∀ tool, p.get tool = q.get tool := fun tool => Option.ext (same tool)
  obtain ⟨a, b, c⟩ := p
  obtain ⟨a', b', c'⟩ := q
  obtain rfl : a = a' := each .gofmt
  obtain rfl : b = b' := each .goimports
  obtain rfl : c = c' := each .goreturns
  rfl

namespace Settings

open Json (Value)

def SaysTool (v : Value) (tool : Tool) : Prop :=
  ∃ text, v = .string text ∧ Tool.parse? text = some tool

def SaysFlag (v : Value) (flag : Bool) : Prop := v = .boolean flag

def LastPath (members : List (String × Value)) (tool : Tool) (path : String) : Prop :=
  ∃ before name after, members = before ++ (name, .string path) :: after ∧
    Tool.parse? name = some tool ∧ ∀ m ∈ after, Tool.parse? m.1 ≠ some tool

def AllPaths (members : List (String × Value)) : Prop :=
  ∀ m ∈ members, ∃ tool path, Tool.parse? m.1 = some tool ∧ m.2 = .string path

def SaysPaths (v : Value) (paths : ToolPaths) : Prop :=
  ∃ members, v = .object members ∧ AllPaths members ∧
    ∀ tool path, paths.get tool = some path ↔ LastPath members tool path

def Gives {α : Type} (tells : Value → α → Prop) (before : α) : Option Value → α → Prop
  | none, a => a = before
  | some v, a => tells v a

/-- What settings become through the values of the three members. -/
structure Sets (before : Settings) (tool flag paths : Option Value) (after : Settings) : Prop where
  tool : Gives SaysTool before.tool tool after.tool
  flag : Gives SaysFlag before.formatOnSave flag after.formatOnSave
  paths : Gives SaysPaths before.toolPaths paths after.toolPaths

/-- The settings that a text with the given value has. -/
inductive Accepted : Option Value → Settings → Prop
  | absent : Accepted none .default
  | object {members : List (String × Value)} {s : Settings}
    (known : ∀ m ∈ members, m.1 ∈ ["tool", "formatOnSave", "toolPaths"])
    (sets : Sets .default (members.lookup "tool") (members.lookup "formatOnSave")
      (members.lookup "toolPaths") s) : Accepted (some (.object members)) s
  | array {items : List Value} {s : Settings} (few : items.length ≤ 3)
    (sets : Sets .default items[0]? items[1]? items[2]? s) : Accepted (some (.array items)) s

theorem decodeTool_eq_ok_iff {v : Value} {tool : Tool} :
    decodeTool v = .ok tool ↔ SaysTool v tool := by
  cases v with
  | string text =>
    cases named : Tool.parse? text <;> simp [decodeTool, SaysTool, named]
  | _ => simp [decodeTool, SaysTool]

theorem decodeBool_eq_ok_iff {v : Value} {flag : Bool} :
    decodeBool v = .ok flag ↔ SaysFlag v flag := by
  cases v <;> simp [decodeBool, SaysFlag]

theorem decodeText_eq_ok_iff {v : Value} {text : String} :
    decodeText v = .ok text ↔ v = .string text := by
  cases v <;> simp [decodeText]

theorem lastPath_cons {name : String} {v : Value} {rest : List (String × Value)} {tool : Tool}
    {path : String} : LastPath ((name, v) :: rest) tool path ↔ LastPath rest tool path ∨
      (Tool.parse? name = some tool ∧ v = .string path ∧
        ∀ m ∈ rest, Tool.parse? m.1 ≠ some tool) := by
  constructor
  · rintro ⟨before, n, after, all, named, last⟩
    cases before with
    | nil =>
      obtain ⟨⟨rfl, rfl⟩, rfl⟩ : (name = n ∧ v = .string path) ∧ rest = after := by simpa using all
      exact .inr ⟨named, rfl, last⟩
    | cons m before =>
      exact .inl ⟨before, n, after, (List.cons.inj all).2, named, last⟩
  · rintro (⟨before, n, after, rfl, named, last⟩ | ⟨named, rfl, last⟩)
    · exact ⟨(name, v) :: before, n, after, rfl, named, last⟩
    · exact ⟨[], name, rest, rfl, named, last⟩

theorem decodeMembers_eq_ok_iff {members : List (String × Value)} {before after : ToolPaths} :
    decodeMembers before members = .ok after ↔ AllPaths members ∧
      ∀ tool path, after.get tool = some path ↔ LastPath members tool path ∨
        (before.get tool = some path ∧ ∀ m ∈ members, Tool.parse? m.1 ≠ some tool) := by
  induction members generalizing before with
  | nil =>
    have none : ∀ tool path, ¬LastPath [] tool path := by
      rintro tool path ⟨front, name, rest, all, -⟩
      cases front <;> cases all
    simp only [decodeMembers, Except.ok.injEq, AllPaths, none, List.not_mem_nil, false_imp_iff,
      implies_true, and_true, true_and, false_or]
    rw [eq_comm, ToolPaths.eq_iff]
  | cons m rest ih =>
    obtain ⟨name, v⟩ := m
    have step : decodeMembers before ((name, v) :: rest) = .ok after ↔
        ∃ tool, Tool.parse? name = some tool ∧ ∃ path, v = .string path ∧
          decodeMembers (before.set tool path) rest = .ok after := by
      simp [decodeMembers, bind_eq_ok, decodeTool_eq_ok_iff, decodeText_eq_ok_iff, SaysTool]
    have all : AllPaths ((name, v) :: rest) ↔
        (∃ tool path, Tool.parse? name = some tool ∧ v = .string path) ∧ AllPaths rest :=
      List.forall_mem_cons
    have last {tool : Tool} {path : String} (named : Tool.parse? name = some tool)
        (t : Tool) (p : String) :
        (LastPath rest t p ∨ ((before.set tool path).get t = some p ∧
          ∀ m ∈ rest, Tool.parse? m.1 ≠ some t)) ↔
        (LastPath ((name, .string path) :: rest) t p ∨ (before.get t = some p ∧
          ∀ m ∈ (name, Value.string path) :: rest, Tool.parse? m.1 ≠ some t)) := by
      rw [lastPath_cons, List.forall_mem_cons, ToolPaths.get_set, named]
      by_cases same : tool = t <;> simp [same]
    rw [step, all]
    constructor
    · rintro ⟨tool, named, path, rfl, decoded⟩
      obtain ⟨paths, gets⟩ := ih.mp decoded
      exact ⟨⟨⟨tool, path, named, rfl⟩, paths⟩, fun t p => (gets t p).trans (last named t p)⟩
    · rintro ⟨⟨⟨tool, path, named, rfl⟩, paths⟩, gets⟩
      exact ⟨tool, named, path, rfl,
        ih.mpr ⟨paths, fun t p => (gets t p).trans (last named t p).symm⟩⟩

theorem decodePaths_eq_ok_iff {v : Value} (once : v.Unrepeated) {paths : ToolPaths} :
    decodePaths v = .ok paths ↔ SaysPaths v paths := by
  cases v with
  | object members =>
    have none : ∀ tool, ToolPaths.empty.get tool = none := by
      intro tool
      cases tool <;> rfl
    rw [decodePaths, Value.distinct_of_nodup (once members .here), decodeMembers_eq_ok_iff]
    simp [SaysPaths, none]
  | _ => simp [decodePaths, SaysPaths]

section

variable {α : Type} {tells : Value → α → Prop} {x y : α} {v w : Option Value}

theorem gives_or (apart : v = none ∨ w = none) :
    Gives tells x (v.or w) y ↔ ∃ z, Gives tells x v z ∧ Gives tells z w y := by
  cases v with
  | none => simp [Gives]
  | some v =>
    obtain rfl : w = none := by simpa using apart
    simp [Gives]

end

theorem sets_or {before after : Settings} {a b c a' b' c' : Option Value}
    (tool : a = none ∨ a' = none) (flag : b = none ∨ b' = none) (paths : c = none ∨ c' = none) :
    Sets before (a.or a') (b.or b') (c.or c') after ↔
      ∃ s, Sets before a b c s ∧ Sets s a' b' c' after := by
  constructor
  · intro sets
    obtain ⟨t, first, t'⟩ := (gives_or tool).mp sets.tool
    obtain ⟨f, second, f'⟩ := (gives_or flag).mp sets.flag
    obtain ⟨p, third, p'⟩ := (gives_or paths).mp sets.paths
    exact ⟨⟨t, f, p⟩, ⟨first, second, third⟩, ⟨t', f', p'⟩⟩
  · rintro ⟨s, first, second⟩
    exact ⟨(gives_or tool).mpr ⟨_, first.tool, second.tool⟩,
      (gives_or flag).mpr ⟨_, first.flag, second.flag⟩,
      (gives_or paths).mpr ⟨_, first.paths, second.paths⟩⟩

theorem decodeMember_eq_ok_iff {name : String} {v : Value} (once : v.Unrepeated)
    {before after : Settings} : decodeMember before name v = .ok after ↔
      name ∈ ["tool", "formatOnSave", "toolPaths"] ∧
        Sets before ([(name, v)].lookup "tool") ([(name, v)].lookup "formatOnSave")
          ([(name, v)].lookup "toolPaths") after := by
  by_cases known : name ∈ ["tool", "formatOnSave", "toolPaths"]
  · rw [and_iff_right known]
    simp only [List.mem_cons, List.not_mem_nil, or_false] at known
    rcases known with rfl | rfl | rfl
    · have decoded : decodeMember before "tool" v = .ok after ↔
          ∃ tool, SaysTool v tool ∧ { before with tool := tool } = after := by
        simp [decodeMember, bind_eq_ok, decodeTool_eq_ok_iff, pure, Except.pure]
      rw [decoded]
      refine ⟨fun ⟨tool, tells, h⟩ => h ▸ ⟨tells, rfl, rfl⟩, fun ⟨tells, flag, paths⟩ => ?_⟩
      exact ⟨after.tool, tells, by rw [← flag, ← paths]⟩
    · have decoded : decodeMember before "formatOnSave" v = .ok after ↔
          ∃ flag, SaysFlag v flag ∧ { before with formatOnSave := flag } = after := by
        simp [decodeMember, bind_eq_ok, decodeBool_eq_ok_iff, pure, Except.pure]
      rw [decoded]
      refine ⟨fun ⟨flag, tells, h⟩ => h ▸ ⟨rfl, tells, rfl⟩, fun ⟨tool, tells, paths⟩ => ?_⟩
      exact ⟨after.formatOnSave, tells, by rw [← tool, ← paths]⟩
    · have decoded : decodeMember before "toolPaths" v = .ok after ↔
          ∃ paths, SaysPaths v paths ∧ { before with toolPaths := paths } = after := by
        simp [decodeMember, bind_eq_ok, decodePaths_eq_ok_iff once, pure, Except.pure]
      rw [decoded]
      refine ⟨fun ⟨paths, tells, h⟩ => h ▸ ⟨rfl, rfl, tells⟩, fun ⟨tool, flag, tells⟩ => ?_⟩
      exact ⟨after.toolPaths, tells, by rw [← tool, ← flag]⟩
  · have unknown := known
    simp only [List.mem_cons, List.not_mem_nil, or_false, not_or] at unknown
    obtain ⟨tool, flag, paths⟩ := unknown
    simp [decodeMember, known, tool, flag, paths]

theorem decodeObject_eq_ok_iff {members : List (String × Value)}
    (once : (members.map Prod.fst).Nodup) (each : ∀ m ∈ members, m.2.Unrepeated)
    {before after : Settings} : decodeObject before members = .ok after ↔
      (∀ m ∈ members, m.1 ∈ ["tool", "formatOnSave", "toolPaths"]) ∧
        Sets before (members.lookup "tool") (members.lookup "formatOnSave")
          (members.lookup "toolPaths") after := by
  induction members generalizing before with
  | nil =>
    have same : Sets before none none none after ↔ before = after :=
      ⟨fun ⟨tool, flag, paths⟩ =>
          congr (congr (congrArg Settings.mk tool.symm) flag.symm) paths.symm,
        fun h => h ▸ ⟨rfl, rfl, rfl⟩⟩
    simp [decodeObject, same]
  | cons m rest ih =>
    obtain ⟨name, v⟩ := m
    obtain ⟨new, once⟩ := List.nodup_cons.mp once
    obtain ⟨first, each⟩ := List.forall_mem_cons.mp each
    have apart (n : String) : [(name, v)].lookup n = none ∨ rest.lookup n = none := by
      by_cases same : n = name
      · refine .inr (List.lookup_eq_none_iff.mpr fun m mem => ?_)
        rw [same, bne_iff_ne]
        rintro rfl
        exact new (List.mem_map.mpr ⟨m, mem, rfl⟩)
      · exact .inl (by simp [List.lookup_cons, beq_false_of_ne same])
    have parted (n : String) : ((name, v) :: rest).lookup n =
        ([(name, v)].lookup n).or (rest.lookup n) := by
      rw [← List.singleton_append, List.lookup_append]
    rw [decodeObject, bind_eq_ok, parted, parted, parted,
      sets_or (apart _) (apart _) (apart _), List.forall_mem_cons]
    simp only [decodeMember_eq_ok_iff first, ih once each]
    grind

theorem decodeItems_eq_ok_iff {count : Nat} {names : List String} {items : List Value}
    {before after : Settings} : decodeItems count before names items = .ok after ↔
      items.length ≤ names.length ∧ decodeObject before (names.zip items) = .ok after := by
  induction items generalizing names before with
  | nil => simp [decodeItems, decodeObject]
  | cons v rest ih =>
    cases names with
    | nil => simp [decodeItems]
    | cons name names =>
      simp only [decodeItems, List.zip_cons_cons, decodeObject, bind_eq_ok, ih,
        List.length_cons, Nat.add_le_add_iff_right]
      grind

theorem ofValue_eq_ok_iff {v : Value} (once : v.Unrepeated) {s : Settings} :
    ofValue v = .ok s ↔ Accepted (some v) s := by
  cases v with
  | object members =>
    obtain ⟨names, each⟩ := Value.unrepeated_object_iff.mp once
    rw [ofValue, Value.distinct_of_nodup names, decodeObject_eq_ok_iff names each]
    refine ⟨fun ⟨known, sets⟩ => .object known sets, fun accepted => ?_⟩
    cases accepted with
    | object known sets => exact ⟨known, sets⟩
  | array items =>
    have each : ∀ m ∈ memberNames.zip items, m.2.Unrepeated := fun m mem =>
      Value.unrepeated_array_iff.mp once m.2 (List.of_mem_zip mem).2
    have places : ((memberNames.zip items).map Prod.fst).Nodup ∧
        (memberNames.zip items).lookup "tool" = items[0]? ∧
        (memberNames.zip items).lookup "formatOnSave" = items[1]? ∧
        (memberNames.zip items).lookup "toolPaths" = items[2]? := by
      rcases items with _ | ⟨a, _ | ⟨b, _ | ⟨c, rest⟩⟩⟩ <;>
        simp [memberNames, List.lookup_cons]
    obtain ⟨names, tool, flag, paths⟩ := places
    rw [ofValue, decodeItems_eq_ok_iff, decodeObject_eq_ok_iff names each, tool, flag, paths]
    constructor
    · rintro ⟨few, -, sets⟩
      exact .array few sets
    · intro accepted
      cases accepted with
      | array few sets => exact ⟨few, fun m mem => (List.of_mem_zip mem).1, sets⟩
  | _ =>
    refine ⟨fun h => ?_, fun accepted => ?_⟩
    · cases h
    · cases accepted

/-- A text with a value is accepted just if its value is, and has the settings that the value
says. Otherwise the value is what is wrong with it. -/
theorem parse_decided {text : Text} {v : Option Value} (read : Json.read text = .ok v)
    (once : ∀ value ∈ v, value.Unrepeated)
    (fit : ∀ value ∈ v, ∀ literal, Value.Occurs (.number literal) value →
      (Json.Number.ofLiteral? literal).isSome = true) :
    (∀ s, parse text = .ok s ↔ Accepted v s) ∧
      ((∀ s, ¬Accepted v s) → ∃ fault, parse text = .error fault ∧
        fault.chain.head? = some "Error deserializing config file.") := by
  cases v with
  | none =>
    have parsed : parse text = .ok .default := by rw [parse, read]
    refine ⟨fun s => ?_, fun refused => absurd .absent (refused .default)⟩
    rw [parsed, Except.ok.injEq]
    refine ⟨fun h => h ▸ .absent, fun accepted => ?_⟩
    cases accepted
    rfl
  | some value =>
    have fits := Value.numbersFit_iff.mpr (fit value rfl)
    have exactly {s : Settings} : ofValue value = .ok s ↔ Accepted (some value) s :=
      ofValue_eq_ok_iff (once value rfl)
    cases decoded : ofValue value with
    | ok settings =>
      have parsed : parse text = .ok settings := by simp [parse, read, fits, decoded]
      refine ⟨fun s => ?_, fun refused => absurd (exactly.mp decoded) (refused settings)⟩
      rw [← exactly, parsed, decoded, Except.ok.injEq, Except.ok.injEq]
    | error fault =>
      have parsed : parse text = .error (.undecodable fault) := by simp [parse, read, fits, decoded]
      refine ⟨fun s => ?_, fun _ => ⟨_, parsed, rfl⟩⟩
      rw [← exactly, parsed, decoded]
      simp

def spelledValue : Value :=
  .object [("tool", .string " imports "),
    ("toolPaths", .object [("fmt", .string "/a"), ("gofmt", .string "/b")])]

theorem parse_decided_spelled :
    let text :=
      "\x7btool: ' imports ', // by name\n'toolPaths': \x7bfmt: '/a', 'gofmt': '/b',\x7d\x7d".toList
    let settings : Settings := ⟨.goimports, false, ⟨some "/b", none, none⟩⟩
    Json.read text = .ok (some spelledValue) ∧ spelledValue.Unrepeated ∧
      parse text = .ok settings ∧ Accepted (some spelledValue) settings := by
  intro text settings
  have read : Json.read text = .ok (some spelledValue) := by rfl
  have once : spelledValue.Unrepeated := by
    simp [spelledValue, Value.unrepeated_object_iff, Value.unrepeated_string]
  have parsed : parse text = .ok settings := eq_ok_of_toOption (by decide +kernel)
  refine ⟨read, once, parsed, ?_⟩
  refine ((parse_decided read ?_ ?_).1 settings).mp parsed
  · rintro value ⟨⟩
    exact once
  · rintro value ⟨⟩ literal inside
    exact inside.fits rfl

end Settings

end FormatService
