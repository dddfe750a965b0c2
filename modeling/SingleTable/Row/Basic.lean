import SingleTable.Codec.Decode
import SingleTable.Expression.Evaluation
import SingleTable.Pattern.Glob
import SingleTable.Row.Key
import SingleTable.View

/-!
# Rows

A row is an item in a table.  Attributes that hold the empty string are left out
of it when it is put in and when other attributes are merged into it.  A row has a
key under each view whose attributes it fills.
-/

namespace SingleTable.Item

/-- The item without attributes that hold the empty string. -/
def withoutBlanks (item : Item) : Item :=
  item.keep (!·.isBlank)

/-- The item with other attributes over its own, and without empty strings. -/
def merged (item delta : Item) : Item :=
  withoutBlanks (item.overlay delta)

/-- The text of an attribute that can be part of a key: it is not empty. -/
def keyText? (item : Item) (name : String) : Option String :=
  ((item.find? name).bind Cell.text?).filter (!·.isEmpty)

/-- The key of the item over a partition attribute and perhaps a sort attribute. -/
def keyFor? (item : Item) (partition : String) (sort : Option String) : Option Key := do
  let partitionText ← item.keyText? partition
  match sort with
  | none => some ⟨partitionText, none⟩
  | some name => some ⟨partitionText, some (← item.keyText? name)⟩

/-- The key of the item under a view. -/
def key? (item : Item) (view : View) (layout : Layout) : Option Key := do
  let (partition, sort) ← view.attributes? layout
  item.keyFor? partition sort

/-- The item after an update expression. -/
def updated (item : Item) (expression : String) (bindings : Bindings) :
    Except ExpressionError Item :=
  UpdateStep.applyAll (UpdateStep.ofText expression) bindings item

/-- The values of all attributes, each by the type its cell implies. -/
def decode (item : Item) : Codec.Result Values :=
  item.traverse Codec.decodeInferred

/-- A cell is what a needle asks for.  A string is a glob for string cells; any
other value has to equal the cell's own. -/
def cellFits (cell : Cell) (needle : Value) : Bool :=
  match cell, needle with
  | .string text, .string glob =>
    match Glob.compile? glob false with
    | some pattern => pattern.isMatch text.toList
    | none => false
  | cell, needle =>
    match Codec.decodeInferred cell with
    | .ok value => value.same needle
    | .error _ => false

/-- The item has every attribute that is looked for, and its cell fits. -/
def fits (item : Item) (needles : Values) : Bool :=
  needles.entries.all fun (name, needle) =>
    match item.find? name with
    | some cell => cellFits cell needle
    | none => false

@[simp]
theorem fits_empty (item : Item) : item.fits .empty = true := rfl

end SingleTable.Item
