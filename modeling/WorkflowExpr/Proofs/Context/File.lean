import WorkflowExpr.Context.File
import WorkflowExpr.Proofs.Yaml.Building
import WorkflowExpr.Proofs.Yaml.Reading

/-!
# What a context file comes to

A file yields a snapshot or an issue that is told as one of the file, with one exception: a misfit is not
told so. There is one when an escape or a version in the text cannot be read, or when a node of the document
does not fit its tag, at any depth and as a key or as a value.
-/

namespace WorkflowExpr

namespace Yaml

/-- Where the misfit of a text comes from: from the text itself, before it has a graph, or from a node of the
graph, whose tag rejects it or whose text is looked for without an end. -/
inductive MisfitIn (text : String) : Misfit → Prop where
  | text {cause} :
    Graph.ofText? text = .error (.misfit cause) →
    cause.OfText →
    MisfitIn text cause
  | node {g number cause} :
    Graph.ofText? text = .ok (some g) →
    Nodes.MisfitAt g.nodes number cause →
    cause = .endless ∨ (Nodes.tag g.nodes number).Rejects cause →
    MisfitIn text cause

/-- The text of every scalar that the document holds, at any depth and as a key or as a value, fits its
tag. -/
def Graph.AllFit (g : Graph) : Prop :=
  ∀ number, Relation.ReflTransGen (Nodes.Holds g.nodes) g.root number → Nodes.FitsAt g.nodes number

/-- A document that is read fits; else its text is malformed or has a misfit. -/
theorem read_misfit (text : String) :
    Yields (fun _ => ∀ g, Graph.ofText? text = .ok (some g) → g.AllFit) (Fault.Of (MisfitIn text))
      (read text) := by
  have scans := Graph.scans_ofText text
  unfold read
  generalize hg : Graph.ofText? text = x at scans
  cases scans with
  | error fault =>
    cases fault with
    | malformed => exact .error .malformed
    | misfit ofText => exact .error (.misfit (.text hg ofText))
  | @ok g? =>
    cases g? with
    | none => exact .ok nofun
    | some g =>
      have built := g.build_fits.error_imp fun _ fault =>
        fault.mono fun _ ⟨_, misfit⟩ => MisfitIn.node hg misfit misfit.rejects
      apply built.bind
      intro _ fit
      apply Yields.ok
      rintro _ ⟨⟩
      exact fit

end Yaml

/-- Whether an issue is told as one of the file. -/
def ContextFileIssue.isReported : ContextFileIssue → Bool
  | misfit _ => false
  | _ => true

/-- Reading a context file gives scalars that fit their tags, or an issue that is reported or comes from a
scalar that does not. -/
lemma ContextFile.read_misfit (text : String) :
    Yields (fun _ => ∀ g, Yaml.Graph.ofText? text = .ok (some g) → g.AllFit)
      (fun issue => issue.isReported ∨ ∃ cause, issue = .misfit cause ∧ Yaml.MisfitIn text cause)
      (ContextFile.read (some text)) := by
  have reads := Yaml.read_misfit text
  unfold ContextFile.read
  dsimp only
  split
  · exact .error (.inl rfl)
  · next misfit =>
    rw [misfit] at reads
    cases reads with
    | error fault =>
      cases fault with
      | misfit origin => exact .error (.inr ⟨_, rfl, origin⟩)
  · next nothing =>
    rw [nothing] at reads
    cases reads with
    | ok fit => exact .ok fit
  · next document =>
    rw [document] at reads
    cases reads with
    | ok fit =>
      split
      · exact .ok fit
      · split
        · exact .ok fit
        · exact .error (.inl rfl)
      · exact .error (.inl rfl)

/-- The text of a file yields a snapshot, and then every scalar in it fits, or an issue that is told as one
of the file, or a misfit of the text. -/
theorem Snapshot.ofFile_outcome (text : String) :
    ((∃ s, ofFile (some text) = .ok s) ∧ ∀ g, Yaml.Graph.ofText? text = .ok (some g) → g.AllFit) ∨
      (∃ issue, ofFile (some text) = .error issue ∧ issue.isReported) ∨
      ∃ cause, ofFile (some text) = .error (.misfit cause) ∧ Yaml.MisfitIn text cause := by
  have reads := ContextFile.read_misfit text
  unfold ofFile
  generalize ContextFile.read (some text) = x at reads
  cases reads with
  | @ok file fit => exact .inl ⟨⟨file.snapshot, rfl⟩, fit⟩
  | @error issue origin =>
    rcases origin with reported | ⟨cause, rfl, origin⟩
    · exact .inr (.inl ⟨issue, rfl, reported⟩)
    · exact .inr (.inr ⟨cause, rfl, origin⟩)

/-- The misfit that a reading ends with. -/
def ContextFileIssue.misfit? {α : Type} : Except ContextFileIssue α → Option Yaml.Misfit
  | .error (.misfit cause) => some cause
  | _ => none

/-- The look for a misfit finds what the outcome is. -/
lemma eq_of_misfit? {α : Type} {x : Except ContextFileIssue α} {cause : Yaml.Misfit}
    (h : ContextFileIssue.misfit? x = some cause) : x = .error (.misfit cause) := by
  cases x with
  | ok => cases h
  | error issue =>
    cases issue with
    | misfit =>
      cases h
      rfl
    | _ => cases h

/-- A day that its month does not have is not told as an issue of the file. -/
theorem Snapshot.ofFile_day :
    let text := "github:\n  d: 2024-02-30\n"
    ofFile (some text) = .error (.misfit .day) ∧
      ¬ ((∃ s, ofFile (some text) = .ok s) ∨
        ∃ issue, ofFile (some text) = .error issue ∧ issue.isReported) := by
  intro text
  have misfit : ofFile (some text) = .error (.misfit .day) := by
    apply eq_of_misfit?
    decide +kernel
  refine ⟨misfit, ?_⟩
  rw [misfit]
  rintro (⟨s, h⟩ | ⟨issue, h, reported⟩)
  · cases h
  · cases h
    cases reported

end WorkflowExpr
