import Mathlib.Data.List.Forall2
import FieldTypes.CommandLine.Program
import FieldTypes.Proofs.Text.Json

/-! What is printed.  A report is put out as lines or as a document in JSON, and either has
one entry for each class or field, in their order. -/

namespace FieldTypes.CommandLine

open Text

/-! ## Output -/

/-- The outcome puts out the lines, or a text in JSON that spells the document.  Nothing else
is put out. -/
structure Outcome.PutsOut (outcome : Outcome) (asJson : Bool) (lines : List String)
    (document : Json) : Prop where
  lines_eq : asJson = false → outcome.output = String.join (lines.map (· ++ "\n"))
  document_eq : asJson = true → outcome.output = document.pretty ++ "\n" ∧
    Json.Spells document.pretty.toList (.value document)
  diagnostics_eq : outcome.diagnostics = ""

theorem Outcome.putsOut_reported (code : Nat) (asJson : Bool) (lines : List String)
    (document : Json) :
    (Outcome.reported code asJson lines document).PutsOut asJson lines document where
  lines_eq plain := by rw [reported, plain]; rfl
  document_eq json := ⟨by rw [reported, json]; rfl, Json.spells_pretty document⟩
  diagnostics_eq := rfl

@[simp] theorem Outcome.code_reported (code : Nat) (asJson : Bool) (lines : List String)
    (json : Json) : (Outcome.reported code asJson lines json).code = code :=
  rfl

@[simp] theorem Outcome.code_refusal (message : String) : (Outcome.refusal message).code = 2 :=
  rfl

@[simp] theorem Outcome.code_fault (asJson : Bool) (message : String) :
    (Outcome.fault asJson message).code = 1 := by
  rw [Outcome.fault]
  split <;> rfl

/-! ## Fields of a class -/

/-- A report has the type of a field as a text and as an outline, or the reason why the
field has no type: one of the two and never both. -/
structure Tells (resolver : Resolver) (field : FieldDefinition) (line : ResolvedLine) :
    Prop where
  name_eq : line.name = field.name
  declared_eq : line.declared = resolver.registry.declaredText field.type
  result :
    (∃ type, resolver.resolve field = .ok type ∧
      line.resolved? = some (resolver.registry.resolvedText type) ∧
      line.descriptor? = some (Outline.inRegistry resolver.registry type) ∧
      line.error? = none) ∨
    ∃ error, resolver.resolve field = .error error ∧ line.resolved? = none ∧
      line.descriptor? = none ∧ line.error? = some error.message

theorem tells_fieldLine (resolver : Resolver) (field : FieldDefinition) :
    Tells resolver field (ResolveReport.fieldLine resolver field) := by
  rw [ResolveReport.fieldLine]
  cases outcome : resolver.resolve field with
  | error error => exact ⟨rfl, rfl, .inr ⟨error, outcome, rfl, rfl, rfl⟩⟩
  | ok type => exact ⟨rfl, rfl, .inl ⟨type, outcome, rfl, rfl, rfl⟩⟩

theorem tells_make (resolver : Resolver) :
    List.Forall₂ (Tells resolver) resolver.definition.fields
      (ResolveReport.make resolver).fields := by
  rw [ResolveReport.make, List.forall₂_map_right_iff, List.forall₂_same]
  exact fun field _ => tells_fieldLine resolver field

/-- What is printed about a field that has a type, as a line and in JSON. -/
def typeEntry (registry : Registry) (field : FieldDefinition) (text : String)
    (descriptor : Outline) : String × Json :=
  ( "  " ++ field.name ++ ": " ++ registry.declaredText field.type ++ " => " ++ text,
    .object
      [ ("name", .text field.name),
        ("declared", .text (registry.declaredText field.type)),
        ("resolved", .text text),
        ("descriptor", descriptor.json) ] )

/-- What is printed about a field that has none. -/
def errorEntry (registry : Registry) (field : FieldDefinition) (message : String) :
    String × Json :=
  ( "  " ++ field.name ++ ": " ++ registry.declaredText field.type ++ " => error: " ++ message,
    .object
      [ ("name", .text field.name),
        ("declared", .text (registry.declaredText field.type)),
        ("error", .text message) ] )

/-- The entry of a field, by what it resolves to. -/
inductive Shown (resolver : Resolver) (field : FieldDefinition) : String × Json → Prop
  | resolved {type : ResolvedType} : resolver.resolve field = .ok type →
      Shown resolver field (typeEntry resolver.registry field
        (resolver.registry.resolvedText type) (Outline.inRegistry resolver.registry type))
  | failed {error : ResolutionError} : resolver.resolve field = .error error →
      Shown resolver field (errorEntry resolver.registry field error.message)

theorem Tells.exists_shown {resolver : Resolver} {field : FieldDefinition} {line : ResolvedLine}
    (tells : Tells resolver field line) :
    ∃ text, ResolveReport.line? line = some text ∧
      Shown resolver field (text, ResolveReport.fieldJson line) := by
  rcases tells.result with
    ⟨type, outcome, resolved, descriptor, error⟩ | ⟨error, outcome, resolved, descriptor, message⟩
  · rw [ResolveReport.line?, ResolveReport.fieldJson, tells.name_eq, tells.declared_eq, resolved,
      descriptor, error]
    exact ⟨_, rfl, .resolved outcome⟩
  · rw [ResolveReport.line?, ResolveReport.fieldJson, tells.name_eq, tells.declared_eq, resolved,
      descriptor, message]
    exact ⟨_, rfl, .failed outcome⟩

/-- There is one line for each field, and one item in JSON. -/
theorem exists_shown_of_tells {resolver : Resolver} {fields : List FieldDefinition}
    {lines : List ResolvedLine} (tells : List.Forall₂ (Tells resolver) fields lines) :
    ∃ shown, List.Forall₂ (Shown resolver) fields shown ∧
      lines.filterMap ResolveReport.line? = shown.map Prod.fst ∧
      lines.map ResolveReport.fieldJson = shown.map Prod.snd := by
  induction tells with
  | nil => exact ⟨[], .nil, rfl, rfl⟩
  | cons first _ induction =>
      rcases first.exists_shown with ⟨text, line, own⟩
      rcases induction with ⟨shown, others, texts, items⟩
      refine ⟨_, .cons own others, ?_, ?_⟩
      · rw [List.filterMap_cons_some line, texts, List.map_cons]
      · rw [List.map_cons, items, List.map_cons]

/-- The outcome puts out a class, with the outline and the text of its type, and what is shown
of each field. -/
def Outcome.PutsOutClass (outcome : Outcome) (asJson : Bool) (name : String) (outline : Outline)
    (display : String) (shown : List (String × Json)) : Prop :=
  outcome.PutsOut asJson (display :: shown.map Prod.fst)
    (.object
      [ ("class", .text name),
        ("type", outline.json),
        ("display", .text display),
        ("fields", .list (shown.map Prod.snd)) ])

theorem exists_putsOutClass_of_tells {resolver : Resolver} {fields : List FieldDefinition}
    {report : ResolveReport} (tells : List.Forall₂ (Tells resolver) fields report.fields)
    (code : Nat) (asJson : Bool) :
    ∃ shown, List.Forall₂ (Shown resolver) fields shown ∧
      (Outcome.reported code asJson report.lines report.json).PutsOutClass asJson report.name
        report.outline report.display shown := by
  rcases exists_shown_of_tells tells with ⟨shown, all, texts, items⟩
  refine ⟨shown, all, ?_⟩
  rw [Outcome.PutsOutClass, ← texts, ← items]
  exact Outcome.putsOut_reported code asJson report.lines report.json

end FieldTypes.CommandLine
