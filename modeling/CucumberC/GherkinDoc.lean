import CucumberC.Pickle

/-!
# Gherkin documents

`cuc_gherkin_doc.c`: a feature file is parsed once; a valid document is compiled to
pickles, an invalid one keeps the messages of its parser errors. Parser, compiler and
the printing of events belong to gherkin-c, which is not part of the repository: they
are the fields of `GherkinC`.

## Main definitions

* `GherkinC`: what the repository calls of gherkin-c and cJSON.
* `CucGherkinDoc`, `gherkinDocumentNew`: a document and its constructor.
* `gherkinDocumentGetPickles`, `gherkinDocumentErrors`: what the runner reads of it.
-/

namespace CucumberC
open Interaction

/-- An error of the gherkin parser. -/
structure ParserError where
  line : ℕ
  column : ℕ
  text : String
  deriving DecidableEq, Repr

/-- The third-party functions behind a feature file. `γ` is the type of syntax trees. -/
structure GherkinC (γ : Type) where
  /-- Read the file and run `Parser_parse`: the tree that `AstBuilder_get_result` gives,
  or the errors in the order in which `Parser_next_error` yields them. -/
  parserParse : String → Except (List ParserError) γ
  /-- The printed attachment event of an error in a file. -/
  attachmentEventToString : String → ParserError → String
  /-- `Compiler_compile`: the printed pickle events in order, or a non-zero code. -/
  compilerCompile : γ → Option (List String)
  /-- `cJSON_Parse` -/
  cJSONParse : String → Option CJson

/-- The parts of a document that are read after its construction. -/
structure CucGherkinDoc (γ : Type) where
  gherkinDocumentEvent : Option γ
  errors : Option (CursorList String)
  valid : Bool

variable {γ : Type} (G : GherkinC γ)

/-- The loop `while (Parser_has_more_errors (parser))`: each turn takes one error. -/
def gherkinDocumentNewErrors (filename : String) :
    List ParserError → CursorList String → CursorList String
  | [], errors => errors
  | error :: rest, errors =>
      gherkinDocumentNewErrors filename rest
        (errors.append (G.attachmentEventToString filename error))

/-- `gherkin_document_new` -/
def gherkinDocumentNew (filename : String) : CucGherkinDoc γ :=
  match G.parserParse filename with
  | .ok tree => { gherkinDocumentEvent := some tree, errors := none, valid := true }
  | .error errors =>
      { gherkinDocumentEvent := none
        errors := some (gherkinDocumentNewErrors G filename errors .new)
        valid := false }

/-- `gherkin_document_valid` -/
def gherkinDocumentValid (self : CucGherkinDoc γ) : Bool := self.valid

/-- `gherkin_document_errors` -/
def gherkinDocumentErrors (self : CucGherkinDoc γ) : Option (CursorList String) := self.errors

/-- `gherkin_document_get_pickles` -/
def gherkinDocumentGetPickles (self : CucGherkinDoc γ) : Except Fault (CursorList String) :=
  match self.gherkinDocumentEvent with
  | none => throw .nullPointer
  | some tree =>
    match G.compilerCompile tree with
    | none => throw .assertion
    | some pickles => pure (pickles.foldl CursorList.append .new)

/-! ## What the constructor establishes -/

theorem gherkinDocumentNewErrors_items (filename : String) (errors : List ParserError)
    (list : CursorList String) :
    (gherkinDocumentNewErrors G filename errors list).items =
      list.items ++ errors.map (G.attachmentEventToString filename) := by
  induction errors generalizing list with
  | nil => simp [gherkinDocumentNewErrors]
  | cons error rest ih => simp [gherkinDocumentNewErrors, ih]

/-- An unparsable file keeps one message per error, in the parser's order. -/
theorem gherkinDocumentNew_errors {filename : String} {errors : List ParserError}
    (h : G.parserParse filename = .error errors) :
    gherkinDocumentValid (gherkinDocumentNew G filename) = false ∧
      ∃ list, gherkinDocumentErrors (gherkinDocumentNew G filename) = some list ∧
        list.items = errors.map (G.attachmentEventToString filename) := by
  simp [gherkinDocumentNew, gherkinDocumentValid, gherkinDocumentErrors, h,
    gherkinDocumentNewErrors_items]

theorem items_foldl_append {α : Type} (xs : List α) (list : CursorList α) :
    (xs.foldl CursorList.append list).items = list.items ++ xs := by
  induction xs generalizing list with
  | nil => simp
  | cons x xs ih => simp [ih]

/-- A parsed file that compiles yields its pickle events, in order. -/
theorem gherkinDocumentNew_pickles {filename : String} {tree : γ} {pickles : List String}
    (h : G.parserParse filename = .ok tree) (hc : G.compilerCompile tree = some pickles) :
    gherkinDocumentValid (gherkinDocumentNew G filename) = true ∧
      ∃ list, gherkinDocumentGetPickles G (gherkinDocumentNew G filename) = .ok list ∧
        list.items = pickles := by
  simp [gherkinDocumentNew, gherkinDocumentValid, gherkinDocumentGetPickles, h, hc,
    items_foldl_append, pure, Except.pure]

end CucumberC
