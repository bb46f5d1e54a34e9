import PreparedSql.Value

/-!
# SQL text whose placeholders carry their bindings

Compiling a statement yields SQL text with a `?` for every bound value and the list of what the
placeholders are bound to. Both are views of one thing: a `Template` is a sequence of symbols, each
a character of the text or a placeholder together with its binding. Text and bindings can therefore
not get out of step, whatever is put in front of a template, behind it or around it.

## Main definitions

* `Template.text`, `Template.bindings`: the two views.
* `Template.render`: the text with something else written for each placeholder.
-/

namespace PreparedSql

/-- A character of SQL text, or a placeholder with its binding. -/
inductive Symbol where
  | char (c : Char)
  | placeholder (binding : Binding)
  deriving DecidableEq, Repr

namespace Symbol

/-- How the symbol looks in SQL text. -/
def shown : Symbol → Char
  | char c => c
  | placeholder _ => '?'

def binding? : Symbol → Option Binding
  | char _ => none
  | placeholder binding => some binding

def mapBinding (f : Binding → Binding) : Symbol → Symbol
  | char c => char c
  | placeholder binding => placeholder (f binding)

@[simp] theorem shown_mapBinding (f : Binding → Binding) (s : Symbol) :
    (s.mapBinding f).shown = s.shown := by
  cases s <;> rfl

end Symbol

/-- SQL text whose placeholders carry their bindings. -/
abbrev Template := List Symbol

namespace Template

/-- Text without placeholders. -/
def ofString (s : String) : Template := s.toList.map .char

def placeholder (binding : Binding) : Template := [.placeholder binding]

/-- The text, with `?` for every placeholder. -/
def text (t : Template) : String := String.ofList (t.map Symbol.shown)

/-- The bindings of the placeholders, in the order of the text. -/
def bindings (t : Template) : List Binding := t.filterMap Symbol.binding?

/-- The characters of the text when `mark binding` is written for a placeholder. -/
def render (mark : Binding → List Char) (t : Template) : List Char :=
  t.flatMap fun
    | .char c => [c]
    | .placeholder binding => mark binding

def mapBindings (f : Binding → Binding) (t : Template) : Template := t.map (Symbol.mapBinding f)

/-- Templates with a text between every two of them. -/
def join (between : String) (parts : List Template) : Template :=
  (ofString between).intercalate parts

/-! ## The views of compound templates -/

@[simp] theorem toList_text (t : Template) : t.text.toList = t.map Symbol.shown :=
  String.toList_ofList

@[simp] theorem text_nil : text [] = "" := rfl

@[simp] theorem bindings_nil : bindings [] = [] := rfl

@[simp] theorem text_append (s t : Template) : text (s ++ t) = s.text ++ t.text := by
  simp [← String.toList_inj]

@[simp] theorem bindings_append (s t : Template) : bindings (s ++ t) = s.bindings ++ t.bindings :=
  List.filterMap_append

theorem ofString_append (s t : String) : ofString (s ++ t) = ofString s ++ ofString t := by
  rw [ofString, String.toList_append, List.map_append]
  rfl

@[simp] theorem text_ofString (s : String) : (ofString s).text = s := by
  simp [← String.toList_inj, ofString, Symbol.shown, Function.comp_def]

@[simp] theorem bindings_ofString (s : String) : (ofString s).bindings = [] := by
  simp [bindings, ofString, List.filterMap_map, Symbol.binding?, Function.comp_def]

@[simp] theorem text_placeholder (binding : Binding) : (placeholder binding).text = "?" := rfl

@[simp] theorem bindings_placeholder (binding : Binding) :
    (placeholder binding).bindings = [binding] := rfl

@[simp] theorem text_mapBindings (f : Binding → Binding) (t : Template) :
    (t.mapBindings f).text = t.text := by
  simp [← String.toList_inj, mapBindings, Function.comp_def]

@[simp] theorem bindings_mapBindings (f : Binding → Binding) (t : Template) :
    (t.mapBindings f).bindings = t.bindings.map f := by
  induction t with
  | nil => rfl
  | cons s t ih =>
    simp only [mapBindings, bindings] at ih
    cases s <;>
      simp [mapBindings, bindings, List.filterMap_cons, Symbol.mapBinding, Symbol.binding?, ih]

end Template

end PreparedSql
