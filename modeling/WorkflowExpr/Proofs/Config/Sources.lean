import WorkflowExpr.Config.Load
import WorkflowExpr.Proofs.Result
import WorkflowExpr.Proofs.Value.Key

/-!
# What a configuration depends on

A setting is decided by one value, that of the first source that has the setting. Further sources only add to
an object what it lacks, and no setting takes an object. So the configuration, and else the first setting whose
value is refused, depend on the values that count and not on those behind them. Before all of them comes a
workspace whose path the file system refuses.
-/

namespace WorkflowExpr

namespace Setting

/-- The problem that a reading ends with. -/
def problemOf? {α : Type} : Except Problem α → Option Problem
  | .ok _ => none
  | .error problem => some problem

/-- What is wrong with a value for a setting, if anything is. -/
def problem? : Setting → Value → Option Problem
  | maxDepth, v => problemOf? (depthOf v)
  | contextFile, v => problemOf? (pathOf v)
  | workspace, v => problemOf? (pathOf v)
  | status, v => problemOf? (statusOf v)
  | verbosity, v => problemOf? (verbosityOf v)

/-- Settings have different names. -/
lemma name_inj {r s : Setting} : r.name = s.name ↔ r = s := by
  cases r <;> cases s <;> decide

end Setting

namespace Config

/-- The value of a setting that counts: that of the first layer that has one. -/
def winner? (layers : List Layer) (s : Setting) : Option Value :=
  layers.findSome? (Value.member? (.text s.name))

section Values

variable (value? : Setting → Option Value)

/-- What a setting is by the value that counts for it: what is read from the value, or the default where
there is none. -/
def Taken {α : Type} (s : Setting) (read : Value → Except Setting.Problem α) (default a : α) : Prop :=
  match value? s with
  | none => a = default
  | some v => read v = .ok a

/-- Each setting is that of the value that counts for it. -/
structure Reads (c : Config) : Prop where
  maxDepth : Taken value? .maxDepth Setting.depthOf defaultDepth.toNat c.maxDepth
  contextFile : Taken value? .contextFile Setting.pathOf none c.contextFile?
  workspace : Taken value? .workspace Setting.pathOf none c.workspace?
  status : Taken value? .status Setting.statusOf .success c.status
  verbosity : Taken value? .verbosity Setting.verbosityOf .warning c.verbosity

/-- The first setting whose value is refused, and what is wrong with the value. -/
def firstRefused? : Option (Setting × Setting.Problem) :=
  Setting.all.findSome? fun s => ((value? s).bind s.problem?).map (s, ·)

end Values

/-- The layers agree on a setting as far as the first of them that has it. -/
def Agree (s : Setting) : List Layer → List Layer → Prop
  | [], [] => True
  | layer :: layers, other :: others =>
    Value.member? (.text s.name) layer = Value.member? (.text s.name) other ∧
      (Value.member? (.text s.name) layer = none → Agree s layers others)
  | _, _ => False

/-- Values that no setting tells apart: they are the same, or both are objects. -/
inductive Alike : Value → Value → Prop where
  | same {v} :
    Alike v v
  | objects {ms ns} :
    Alike (.object ms) (.object ns)

section Winners

variable {layers others : List Layer} {s : Setting}

/-- Where layers agree on a setting, the same value counts for it. -/
lemma Agree.winner_eq (h : Agree s layers others) : winner? layers s = winner? others s := by
  induction layers generalizing others with
  | nil =>
    cases others with
    | nil => rfl
    | cons => exact h.elim
  | cons layer layers ih =>
    cases others with
    | nil => exact h.elim
    | cons other others =>
      obtain ⟨same, rest⟩ := h
      rw [winner?, winner?, List.findSome?_cons, List.findSome?_cons, ← same]
      cases value : Value.member? (.text s.name) layer with
      | some => rfl
      | none => exact ih (rest value)

/-- A value that is laid over another one stays alike to what it was. -/
lemma overlaid_alike (below? : Option Value) (v : Value) : Alike (overlaid below? v) v := by
  cases v with
  | object members =>
    unfold overlaid
    split
    · exact .objects
    · exact .same
  | _ => exact .same

/-- Values that are alike to one value are alike. -/
lemma Alike.trans {u v w : Value} (h : Alike u v) (h' : Alike v w) : Alike u w := by
  cases h with
  | same => exact h'
  | objects =>
    cases h' with
    | same => exact .objects
    | objects => exact .objects

/-- Layers below add nothing to a value, unless it is an object. -/
lemma foldl_alike (below : List Value) (v : Value) :
    ∃ w, Alike w v ∧
      below.foldl (fun value? b => some (value?.elim b (overlaid (some b)))) (some v) = some w := by
  induction below generalizing v with
  | nil => exact ⟨v, .same, rfl⟩
  | cons b below ih =>
    obtain ⟨w, alike, folded⟩ := ih (overlaid (some b) v)
    exact ⟨w, alike.trans (overlaid_alike _ v), folded⟩

/-- What is read of a setting is the value that counts, with members added if it is an object. -/
lemma setting?_alike (layers : List Layer) (s : Setting) :
    Option.Rel Alike (setting? layers s) (winner? layers s) := by
  rw [winner?, setting?, ← List.head?_filterMap]
  cases layers.filterMap (Value.member? (.text s.name)) with
  | nil => exact .none
  | cons v below =>
    obtain ⟨w, alike, folded⟩ := foldl_alike below v
    rw [List.foldl_cons, List.head?_cons]
    exact folded ▸ .some alike

end Winners

section Environment

/-- The text that environment variables give a setting: that of the last one with its name, whatever the
case. -/
def environmentText? (env : List (String × String)) (s : Setting) : Option String :=
  (env.reverse.find? fun entry => Text.lower entry.1 == s.variableName).map (·.2)

/-- The environment sets those settings for which it has a text, and each one to that text. -/
lemma environmentLayer_eq (env : List (String × String)) :
    environmentLayer env = Setting.all.filterMap fun s =>
      (environmentText? env s).map fun text => (.text s.name, .string text) := by
  rw [environmentLayer]
  refine congrArg (List.filterMap · Setting.all) (funext fun s => ?_)
  rw [environmentText?, Option.map_map]
  rfl

/-- In members that some settings have, each of these settings has its own. -/
lemma member_settings (value? : Setting → Option String) (settings : List Setting) (s : Setting) :
    Value.member? (.text s.name) (settings.filterMap fun r =>
        (value? r).map fun text => (Key.text r.name, Value.string text)) =
      if s ∈ settings then (value? s).map .string else none := by
  induction settings with
  | nil => rfl
  | cons r settings ih =>
    rw [List.filterMap_cons]
    cases value : value? r with
    | none =>
      refine ih.trans ?_
      by_cases same : s = r
      · subst same
        simp [value]
      · simp [same]
    | some text =>
      refine (Value.member_cons ..).trans ?_
      rw [ih]
      by_cases same : s = r
      · subst same
        simp [value, Key.same_text_iff]
      · simp [same, Key.same_text_iff, Setting.name_inj, Ne.symm same]

/-- The environment goes before all other layers. -/
lemma winner_environment (env : List (String × String)) (below : List Layer) (s : Setting) :
    winner? (environmentLayer env :: below) s =
      ((environmentText? env s).map .string).or (winner? below s) := by
  have all : s ∈ Setting.all := by
    cases s with
    | _ => decide
  rw [winner?, List.findSome?_cons, environmentLayer_eq, member_settings, if_pos all]
  cases environmentText? env s with
  | none => rfl
  | some => rfl

end Environment

section Fields

variable {α : Type} {layers : List Layer} {s : Setting} {read : Value → Except Setting.Problem α}
  {default a : α}

/-- The reading refuses all objects alike. -/
def RefusesObjects (read : Value → Except Setting.Problem α) : Prop :=
  ∃ problem, ∀ members, read (.object members) = .error problem

/-- A reading that refuses objects reads values alike when they are alike. -/
lemma RefusesObjects.read_eq (h : RefusesObjects read) {v w : Value} (alike : Alike v w) :
    read v = read w := by
  obtain ⟨problem, refused⟩ := h
  cases alike with
  | same => rfl
  | objects => rw [refused, refused]

/-- A field is read when the value that counts can be read, or when there is none and the default stands in. -/
lemma field_eq_ok_iff (objects : RefusesObjects read) :
    field layers s read default = .ok a ↔ Taken (winner? layers) s read default a := by
  have alike := setting?_alike layers s
  rw [field, Taken]
  generalize setting? layers s = value?, winner? layers s = winner? at alike ⊢
  cases alike with
  | none => exact ⟨fun h => (Except.ok.inj h).symm, fun h => congrArg Except.ok h.symm⟩
  | @some v w alike =>
    dsimp only
    rw [objects.read_eq alike]
    cases read w with
    | ok b => simp only [Except.ok.injEq]
    | error problem => exact ⟨nofun, nofun⟩

/-- Reads a setting for its problem alone. -/
def checked (layers : List Layer) (s : Setting) : Except ConfigIssue Unit :=
  field layers s (fun v => (s.problem? v).elim (.ok ()) .error) ()

/-- To read a field is to check its value. -/
lemma field_checked (same : ∀ v, s.problem? v = Setting.problemOf? (read v)) :
    (field layers s read default).map (fun _ => ()) = checked layers s := by
  rw [checked, field, field]
  cases setting? layers s with
  | none => rfl
  | some v =>
    dsimp only
    rw [same]
    cases read v with
    | ok => rfl
    | error => rfl

/-- A setting is read for its problem, if only problems are asked for in what follows. -/
lemma bind_checked {β : Type} {f : α → Except ConfigIssue β} {rest : Except ConfigIssue Unit}
    (same : ∀ v, s.problem? v = Setting.problemOf? (read v))
    (h : ∀ a, (f a).map (fun _ => ()) = rest) :
    (field layers s read default >>= f).map (fun _ => ()) = checked layers s >>= fun _ => rest := by
  have checks : (field layers s read default).map (fun _ => ()) = checked layers s := field_checked same
  rw [← checks]
  cases field layers s read default with
  | error => rfl
  | ok a => exact h a

/-- A problem of a setting does not tell objects apart. -/
lemma problem?_alike (s : Setting) {v w : Value} (alike : Alike v w) : s.problem? v = s.problem? w := by
  cases alike with
  | same => rfl
  | objects =>
    cases s with
    | _ => rfl

/-- A setting passes its check, or its value is refused. The value in the issue is the one that was read, and
the problem in it is that of the value that counts. -/
lemma checked_cases (layers : List Layer) (s : Setting) :
    ((winner? layers s).bind s.problem? = none ∧ checked layers s = .ok ()) ∨
      ∃ problem v, (winner? layers s).bind s.problem? = some problem ∧ setting? layers s = some v ∧
        checked layers s = .error (.refused s problem v) := by
  have alike := setting?_alike layers s
  rw [checked, field]
  generalize setting? layers s = value?, winner? layers s = winner? at alike ⊢
  cases alike with
  | none => exact .inl ⟨rfl, rfl⟩
  | @some v w alike =>
    dsimp only
    rw [problem?_alike s alike, Option.bind_some]
    cases s.problem? w with
    | none => exact .inl ⟨rfl, rfl⟩
    | some problem => exact .inr ⟨problem, v, rfl, rfl, rfl⟩

/-- A setting passes its check when no problem is found with the value that counts. -/
lemma checked_eq_ok_iff : checked layers s = .ok () ↔ (winner? layers s).bind s.problem? = none := by
  rcases checked_cases layers s with ⟨passed, checks⟩ | ⟨problem, v, refused, -, checks⟩
  · rw [checks, passed]
    exact ⟨fun _ => rfl, fun _ => rfl⟩
  · rw [checks, refused]
    exact ⟨nofun, nofun⟩

/-- A setting that fails its check is named with its problem and its value. -/
lemma checked_eq_error_iff {issue : ConfigIssue} :
    checked layers s = .error issue ↔ ∃ problem v, (winner? layers s).bind s.problem? = some problem ∧
      setting? layers s = some v ∧ issue = .refused s problem v := by
  rcases checked_cases layers s with ⟨passed, checks⟩ | ⟨problem, v, refused, value, checks⟩
  · rw [checks, passed]
    exact ⟨nofun, fun ⟨_, _, refused, _⟩ => nomatch refused⟩
  · rw [checks, refused, value]
    constructor
    · rintro ⟨⟩
      exact ⟨problem, v, rfl, rfl, rfl⟩
    · rintro ⟨_, _, ⟨⟩, ⟨⟩, rfl⟩
      rfl

end Fields

section Loading

variable {refuses : String → Bool} {layers : List Layer}

/-- The reading of the depth refuses objects. -/
lemma RefusesObjects.depth : RefusesObjects Setting.depthOf := ⟨.notInteger, fun _ => rfl⟩

/-- The reading of a path refuses objects. -/
lemma RefusesObjects.path : RefusesObjects Setting.pathOf := ⟨.notPath, fun _ => rfl⟩

/-- The reading of the status refuses objects. -/
lemma RefusesObjects.status : RefusesObjects Setting.statusOf := ⟨.notStatus, fun _ => rfl⟩

/-- The reading of the verbosity refuses objects. -/
lemma RefusesObjects.verbosity : RefusesObjects Setting.verbosityOf := ⟨.notVerbosity, fun _ => rfl⟩

/-- A workspace whose path is refused ends the reading before any field is checked. -/
lemma ofLayers_overlong {path : String}
    (workspace : Taken (winner? layers) .workspace Setting.pathOf none (some path))
    (refused : refuses path = true) :
    ofLayers refuses layers = .error (.overlong path) := by
  rw [ofLayers, lookUpWorkspace, (field_eq_ok_iff .path).2 workspace]
  dsimp only
  rw [if_pos refused]
  rfl

/-- A workspace that the file system does not refuse is passed over, whether its value is a path or not. -/
lemma lookUpWorkspace_eq_ok
    (accepts : ∀ path, Taken (winner? layers) .workspace Setting.pathOf none (some path) →
      refuses path = false) :
    lookUpWorkspace refuses layers = .ok () := by
  rw [lookUpWorkspace]
  split
  · next path workspace =>
    rw [accepts path ((field_eq_ok_iff .path).1 workspace)]
    rfl
  · rfl

/-- Loading succeeds where each field does. -/
lemma ofLayers_eq_ok_iff (looked : lookUpWorkspace refuses layers = .ok ()) {c : Config} :
    ofLayers refuses layers = .ok c ↔ c.Reads (winner? layers) := by
  rw [ofLayers, looked]
  constructor
  · intro h
    obtain ⟨_, -, h⟩ := bind_eq_ok.1 h
    obtain ⟨depth, hd, h⟩ := bind_eq_ok.1 h
    obtain ⟨context, hc, h⟩ := bind_eq_ok.1 h
    obtain ⟨workspace, hw, h⟩ := bind_eq_ok.1 h
    obtain ⟨status, hs, h⟩ := bind_eq_ok.1 h
    obtain ⟨verbosity, hv, ⟨⟩⟩ := bind_eq_ok.1 h
    exact ⟨(field_eq_ok_iff .depth).1 hd, (field_eq_ok_iff .path).1 hc, (field_eq_ok_iff .path).1 hw,
      (field_eq_ok_iff .status).1 hs, (field_eq_ok_iff .verbosity).1 hv⟩
  · intro h
    rw [(field_eq_ok_iff .depth).2 h.maxDepth, (field_eq_ok_iff .path).2 h.contextFile,
      (field_eq_ok_iff .path).2 h.workspace, (field_eq_ok_iff .status).2 h.status,
      (field_eq_ok_iff .verbosity).2 h.verbosity]
    rfl

/-- Without its result, loading checks the settings in their order. -/
lemma ofLayers_checked (looked : lookUpWorkspace refuses layers = .ok ()) :
    (ofLayers refuses layers).map (fun _ => ()) =
      (Setting.all.mapM (checked layers)).map fun _ => () := by
  rw [ofLayers, looked, Setting.all]
  simp only [map_mapM_cons]
  refine bind_checked (fun _ => rfl) fun depth => ?_
  refine bind_checked (fun _ => rfl) fun context => ?_
  refine bind_checked (fun _ => rfl) fun workspace => ?_
  refine bind_checked (fun _ => rfl) fun status => ?_
  refine bind_checked (fun _ => rfl) fun verbosity => ?_
  rfl

/-- The first setting with a problem is behind settings that have none. -/
lemma firstRefused?_eq_some_iff {value? : Setting → Option Value} {s : Setting}
    {problem : Setting.Problem} :
    firstRefused? value? = some (s, problem) ↔
      ∃ before after, Setting.all = before ++ s :: after ∧ (value? s).bind s.problem? = some problem ∧
        ∀ r ∈ before, (value? r).bind r.problem? = none := by
  rw [firstRefused?, List.findSome?_eq_some_iff]
  simp only [Option.map_eq_some_iff, Prod.mk.injEq, Option.map_eq_none_iff]
  constructor
  · rintro ⟨before, r, after, split, ⟨_, refused, rfl, rfl⟩, passed⟩
    exact ⟨before, after, split, refused, passed⟩
  · rintro ⟨before, after, split, refused, passed⟩
    exact ⟨before, s, after, split, ⟨_, refused, rfl, rfl⟩, passed⟩

/-- Loading fails where a first value is refused. -/
lemma ofLayers_eq_error_iff (looked : lookUpWorkspace refuses layers = .ok ()) {issue : ConfigIssue} :
    ofLayers refuses layers = .error issue ↔ ∃ s problem v,
      firstRefused? (winner? layers) = some (s, problem) ∧ setting? layers s = some v ∧
        issue = .refused s problem v := by
  rw [← map_eq_error, ofLayers_checked looked, map_eq_error, mapM_eq_error]
  constructor
  · rintro ⟨before, s, after, split, passed, refused⟩
    obtain ⟨problem, v, h, value, rfl⟩ := checked_eq_error_iff.1 refused
    have passed (r : Setting) (mem : r ∈ before) : (winner? layers r).bind r.problem? = none := by
      obtain ⟨_, passed⟩ := passed r mem
      exact checked_eq_ok_iff.1 passed
    exact ⟨s, problem, v, firstRefused?_eq_some_iff.2 ⟨before, after, split, h, passed⟩, value, rfl⟩
  · rintro ⟨s, problem, v, refused, value, rfl⟩
    obtain ⟨before, after, split, h, passed⟩ := firstRefused?_eq_some_iff.1 refused
    exact ⟨before, s, after, split, fun r mem => ⟨(), checked_eq_ok_iff.2 (passed r mem)⟩,
      checked_eq_error_iff.2 ⟨problem, v, h, value, rfl⟩⟩

/-- A setting whose value is refused has a value. -/
lemma exists_setting {s : Setting} {problem : Setting.Problem}
    (first : firstRefused? (winner? layers) = some (s, problem)) : ∃ v, setting? layers s = some v := by
  obtain ⟨_, _, -, refused, -⟩ := firstRefused?_eq_some_iff.1 first
  rcases checked_cases layers s with ⟨passed, -⟩ | ⟨_, v, -, value, -⟩
  · cases passed.symm.trans refused
  · exact ⟨v, value⟩

/-- Layers with the same values that count come to the same configuration, or name the same setting. -/
lemma ofLayers_winner_eq {others : List Layer} (same : winner? others = winner? layers) :
    (ofLayers refuses others).mapError ConfigIssue.setting? =
      (ofLayers refuses layers).mapError ConfigIssue.setting? := by
  by_cases overlong : ∃ path, Taken (winner? layers) .workspace Setting.pathOf none (some path) ∧
      refuses path = true
  · obtain ⟨path, workspace, refused⟩ := overlong
    rw [ofLayers_overlong workspace refused, ofLayers_overlong (same ▸ workspace) refused]
  · have accepts (path : String)
        (workspace : Taken (winner? layers) .workspace Setting.pathOf none (some path)) :
        refuses path = false :=
      Bool.eq_false_iff.2 fun refused => overlong ⟨path, workspace, refused⟩
    have looked := lookUpWorkspace_eq_ok accepts
    have looked' := lookUpWorkspace_eq_ok (same ▸ accepts)
    cases loaded : ofLayers refuses layers with
    | ok c =>
      have reads := (ofLayers_eq_ok_iff looked).1 loaded
      rw [(ofLayers_eq_ok_iff looked').2 (same ▸ reads)]
    | error issue =>
      obtain ⟨s, problem, v, first, -, rfl⟩ := (ofLayers_eq_error_iff looked).1 loaded
      rw [← same] at first
      obtain ⟨w, value⟩ := exists_setting first
      rw [(ofLayers_eq_error_iff looked').2 ⟨s, problem, w, first, value, rfl⟩]
      rfl

end Loading

/-- Where settings come from. -/
structure Sources where
  env : List (String × String)
  explicit? : Option ConfigFile
  project : ConfigFile
  user : ConfigFile

namespace Sources

/-- The configuration that sources give. -/
def load (refuses : String → Bool) (src : Sources) : Except ConfigIssue Config :=
  Config.load refuses src.env src.explicit? src.project src.user

/-- The layers of sources whose files can be read and have nothing but texts as keys. -/
inductive Gives (src : Sources) : List Layer → Prop where
  | intro {explicit project user} :
    src.explicit?.elim (pure []) explicitLayer = .ok explicit →
    layerOf src.project = .ok project →
    layerOf src.user = .ok user →
    (∀ layer ∈ [explicit, project, user], ∀ entry ∈ layer, ∃ name, entry.1 = .text name) →
    Gives src [environmentLayer src.env, explicit, project, user]

end Sources

/-- A layer in which all keys are texts passes the check of its keys. -/
lemma checkKeys_eq_ok {layer : Layer} (texts : ∀ entry ∈ layer, ∃ name, entry.1 = .text name) :
    checkKeys layer = .ok () := by
  rw [checkKeys, if_pos]
  rw [List.all_eq_true]
  rintro ⟨key, v⟩ mem
  obtain ⟨name, rfl⟩ := texts _ mem
  rfl

/-- Sources are loaded as the layers that they give. -/
lemma Sources.load_eq {refuses : String → Bool} {src : Sources} {layers : List Layer}
    (given : src.Gives layers) : src.load refuses = ofLayers refuses layers := by
  obtain ⟨explicit, project, user, texts⟩ := given
  simp only [List.forall_mem_cons] at texts
  obtain ⟨te, tp, tu, -⟩ := texts
  rw [load, Config.load, explicit, project, user]
  show (checkKeys _ >>= fun _ => checkKeys _ >>= fun _ => checkKeys _ >>= fun _ => _) = _
  rw [checkKeys_eq_ok te, checkKeys_eq_ok tp, checkKeys_eq_ok tu]
  rfl

/-- The setting and the number of a layer that sets one number alone. -/
def onlyNumber? : Except ConfigIssue Layer → Option (String × Int)
  | .ok [(.text name, .integer n)] => some (name, n)
  | _ => none

/-- The look at a layer with one number finds what the layer is. -/
lemma eq_of_onlyNumber? {x : Except ConfigIssue Layer} {name : String} {n : Int}
    (h : onlyNumber? x = some (name, n)) : x = .ok [(.text name, .integer n)] := by
  unfold onlyNumber? at h
  split at h
  · cases h
    rfl
  · cases h

/-- Where the file system refuses the workspace that counts, this is told. Else the configuration has each
setting by the value that counts for it, and when one is refused, the first such setting is named with what is
wrong with its value; nothing else can fail. Sources that differ in shadowed values alone come to the same
configuration or name the same setting. -/
theorem load_layers (refuses : String → Bool) (src : Sources) (layers : List Layer)
    (given : src.Gives layers) :
    (∀ path, Taken (winner? layers) .workspace Setting.pathOf none (some path) → refuses path = true →
      src.load refuses = .error (.overlong path)) ∧
    ((∀ path, Taken (winner? layers) .workspace Setting.pathOf none (some path) → refuses path = false) →
      (∀ c : Config, src.load refuses = .ok c ↔ c.Reads (winner? layers)) ∧
      (∀ s problem, (∃ v, src.load refuses = .error (.refused s problem v)) ↔
        firstRefused? (winner? layers) = some (s, problem)) ∧
      ∀ issue, src.load refuses = .error issue → ∃ s problem v, issue = .refused s problem v) ∧
    ∀ (other : Sources) (others : List Layer), other.Gives others → (∀ s, Agree s layers others) →
      (other.load refuses).mapError ConfigIssue.setting? =
        (src.load refuses).mapError ConfigIssue.setting? := by
  rw [Sources.load_eq given]
  refine ⟨fun path => ofLayers_overlong, fun accepts => ?_, fun other others given' agree => ?_⟩
  · have looked := lookUpWorkspace_eq_ok accepts
    refine ⟨fun c => ofLayers_eq_ok_iff looked, fun s problem => ⟨?_, fun first => ?_⟩,
      fun issue failed => ?_⟩
    · rintro ⟨v, failed⟩
      obtain ⟨_, _, _, first, -, ⟨⟩⟩ := (ofLayers_eq_error_iff looked).1 failed
      exact first
    · obtain ⟨v, value⟩ := exists_setting first
      exact ⟨v, (ofLayers_eq_error_iff looked).2 ⟨s, problem, v, first, value, rfl⟩⟩
    · obtain ⟨s, problem, v, -, -, told⟩ := (ofLayers_eq_error_iff looked).1 failed
      exact ⟨s, problem, v, told⟩
  · rw [Sources.load_eq given']
    exact ofLayers_winner_eq (funext fun s => (agree s).winner_eq.symm)

/-- A limit of a file is refused when it counts, and makes no difference behind an environment variable. -/
theorem load_layers_shadowed :
    let file (text? : Option String) : ConfigFile := ⟨"ghexpr.yaml", text?⟩
    let env := [("GHEXPR_MAX_DEPTH", "8"), ("GHEXPR_WORKSPACE", "w")]
    let shadowing : Sources := ⟨env, none, file (some "max_depth: 0\n"), file none⟩
    let alone : Sources := ⟨env, none, file none, file none⟩
    let counting : Sources := ⟨[], none, file (some "max_depth: 0\n"), file none⟩
    shadowing.load (fun _ => false) = .ok ⟨8, none, some "w", .success, .warning⟩ ∧
      (alone.load fun _ => false).mapError ConfigIssue.setting? =
        (shadowing.load fun _ => false).mapError ConfigIssue.setting? ∧
      (∃ v, counting.load (fun _ => false) = .error (.refused .maxDepth (.tooSmall 1) v)) ∧
      shadowing.load (fun _ => true) = .error (.overlong "w") := by
  intro file env shadowing alone counting
  have read : layerOf (file (some "max_depth: 0\n")) = .ok [(.text "max_depth", .integer 0)] :=
    eq_of_onlyNumber? (by decide +kernel)
  have texts : ∀ layer ∈ [[], [(Key.text "max_depth", Value.integer 0)], []], ∀ entry ∈ layer,
      ∃ name, entry.1 = .text name := by
    simp
  have shadowed : shadowing.Gives _ := .intro rfl read rfl texts
  have given : alone.Gives _ := .intro rfl rfl rfl (by simp)
  have counted : counting.Gives _ := .intro rfl read rfl texts
  refine ⟨?_, ?_, ?_, ?_⟩
  · refine (((load_layers (fun _ => false) _ _ shadowed).2.1 fun _ _ => rfl).1 _).2 ?_
    exact ⟨rfl, rfl, rfl, rfl, rfl⟩
  · refine (load_layers (fun _ => false) _ _ shadowed).2.2 _ _ given fun s => ?_
    cases s with
    | maxDepth => exact ⟨rfl, nofun⟩
    | workspace => exact ⟨rfl, nofun⟩
    | _ => exact ⟨rfl, fun _ => ⟨rfl, fun _ => ⟨rfl, fun _ => ⟨rfl, fun _ => trivial⟩⟩⟩⟩
  · exact (((load_layers (fun _ => false) _ _ counted).2.1 fun _ _ => rfl).2.1 _ _).2 rfl
  · exact (load_layers (fun _ => true) _ _ shadowed).1 "w" rfl rfl

/-- A workspace whose name is too long is told in the place of a limit that is refused before it. -/
theorem load_overlong :
    let long := String.ofList (List.replicate 256 'a')
    let file : ConfigFile := ⟨"ghexpr.yaml", none⟩
    let src : Sources := ⟨[("GHEXPR_MAX_DEPTH", "0"), ("GHEXPR_WORKSPACE", long)], none, file, file⟩
    firstRefused? (winner? [environmentLayer src.env, [], [], []]) = some (.maxDepth, .tooSmall 1) ∧
      src.load (FileTree.refuses ⟨[]⟩ []) = .error (.overlong long) := by
  intro long file src
  have chars : long.toList = List.replicate 256 'a' := String.toList_ofList
  have parts : Path.slashParts (List.replicate 256 'a') = [List.replicate 256 'a'] := by decide +kernel
  have steps : Path.steps long = [long] := by
    rw [Path.steps, chars, parts]
    rfl
  have empty : long ≠ "" := by decide +kernel
  have dot : long ≠ "." := by decide +kernel
  have dots : long ≠ ".." := by decide +kernel
  have size : nameLimit < long.utf8ByteSize := by decide +kernel
  have given : src.Gives _ := .intro rfl rfl rfl (by simp)
  refine ⟨by decide +kernel, ?_⟩
  rw [Sources.load_eq given]
  apply ofLayers_overlong
  -- The workspace of the environment wins, and its path is the one long name.
  · have value : winner? [environmentLayer src.env, [], [], []] .workspace = some (.string long) := by
      rw [winner_environment, show environmentText? src.env .workspace = some long by decide +kernel]
      rfl
    have normalized : Path.normalized long = long := by
      have whole : Path.ofText long = [long] := by simp [Path.ofText, steps, empty, dot]
      have shortest : Path.lead (List.replicate 256 'a') ++ "/".intercalate [long] = long :=
        String.empty_append
      rw [Path.normalized, whole, chars, shortest]
      exact if_neg empty
    rw [Taken, value]
    exact congrArg (fun path => Except.ok (some path)) normalized
  -- The look-up meets the long name in its first step.
  · have top : FileTree.at? ⟨[]⟩ [] = some .directory := rfl
    have plain : (List.replicate 256 'a').contains '\x00' = false := by decide +kernel
    have relative : Path.isAbsolute long = false := by
      rw [Path.isAbsolute, chars]
      rfl
    rw [FileTree.refuses, chars, plain, relative, steps, if_neg Bool.false_ne_true,
      FileTree.meetsOverlong, top]
    simp [empty, dot, dots, size]

end Config

end WorkflowExpr
