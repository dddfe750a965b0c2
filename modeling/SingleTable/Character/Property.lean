import SingleTable.Character.Age
import SingleTable.Character.Break

/-!
# Properties by name

A pattern asks for code points by the name of a trait, category or script, or by the
name of a property and the name of one of its values.  Names are compared loosely;
see `normalName`.
-/

namespace SingleTable.Character

/-- A name as it is compared: without `is` in front of it, without blanks, hyphens,
low lines and anything beyond ASCII, and in lower case.  The one name that would be
left with its last letter alone keeps the `is`. -/
def normalName (name : List Char) : List Char :=
  let marked := (name.take 2).map Char.toLower == ['i', 's']
  let body := if marked then name.drop 2 else name
  let kept := body.filter fun c => c.toNat < 128 && c != ' ' && c != '_' && c != '-'
  let lower := kept.map Char.toLower
  if marked && lower == ['c'] then ['i', 's', 'c'] else lower

/-- What the first entry with a name stands for.  The name is in its normal form. -/
def named? {α : Type} (entries : List (α × List String)) (name : List Char) : Option α :=
  (entries.find? fun entry =>
    entry.2.any fun text => normalName text.toList == name).map Prod.fst

/-- A property by which a pattern chooses code points. -/
inductive Property where
  | ascii
  | category (choices : List Category)
  | script (value : Script)
  | scriptUse (value : Script)
  | assignedBy (version : Nat)
  | trait (value : Trait)
  | graphemeBreak (value : GraphemeBreak)
  | wordBreak (value : WordBreak)
  | sentenceBreak (value : SentenceBreak)
deriving DecidableEq, Repr

namespace Property

/-- The code point has the property. -/
def holds (property : Property) (code : Nat) : Bool :=
  match property with
  | .ascii => code < 128
  | .category choices => Category.anyOf choices code
  | .script value => Script.ofCode code == value
  | .scriptUse value => value.uses code
  | .assignedBy version => Age.assignedBy version code
  | .trait value => value.holds code
  | .graphemeBreak value => GraphemeBreak.ofCode code == value
  | .wordBreak value => WordBreak.ofCode code == value
  | .sentenceBreak value => SentenceBreak.ofCode code == value

/-- The number of stretches in the table that decides the property, or a guess at it
where several tables do. -/
def stretchCount (property : Property) : Nat :=
  match property with
  | .ascii => 1
  | .category choices => Category.stretchCount choices
  | .script value => value.stretchCount
  | .scriptUse value => value.stretchCount
  | .assignedBy _ => 600
  | .trait _ => 200
  | .graphemeBreak _ => 400
  | .wordBreak _ => 200
  | .sentenceBreak _ => 200

/-- All categories. -/
def allCategories : List Category :=
  Category.names.map Prod.fst

/-- The names of groups of categories. -/
def groupNames : List (List Category × List String) :=
  [(Category.group 'L', ["L", "Letter"]),
   ([.uppercaseLetter, .lowercaseLetter, .titlecaseLetter], ["LC", "Cased_Letter"]),
   (Category.group 'M', ["M", "Mark", "Combining_Mark"]),
   (Category.group 'N', ["N", "Number"]),
   (Category.group 'P', ["P", "Punctuation", "punct"]),
   (Category.group 'S', ["S", "Symbol"]),
   (Category.group 'Z', ["Z", "Separator"]),
   (Category.group 'C', ["C", "Other"]),
   ([.control], ["cntrl"]),
   ([.decimalNumber], ["digit"]),
   (allCategories, ["Any"]),
   (allCategories.erase .unassigned, ["Assigned"])]

/-- The categories with a name.  No character is a surrogate, so that one cannot be
asked for. -/
def ofCategoryName? (name : List Char) : Option Property :=
  let single : List (List Category × List String) :=
    (Category.names.filter fun entry => entry.1 != .surrogate).map fun entry =>
      ([entry.1], [entry.2.1, entry.2.2])
  if name = "ascii".toList then some .ascii
  else (named? (single ++ groupNames) name).map .category

/-- The script with a name. -/
def scriptOf? (name : List Char) : Option Script :=
  (Script.names.find? fun entry => entry.2.any fun text => normalName text == name).map Prod.fst

/-- The place of the version with a name: its number, or a `v` and the digits of it. -/
def versionOf? (name : List Char) : Option Nat :=
  Age.versions.findIdx? fun version =>
    name == version.toList || name == 'v' :: version.toList.filter (· != '.')

/-- The property of a trait, of a category or of a script, by its name. -/
def ofName? (name : List Char) : Option Property :=
  let name := normalName name
  ((named? Trait.names name).map .trait) <|> ofCategoryName? name <|>
    (scriptOf? name).map .script

/-- A property that has values, together with one of them. -/
def ofValue? (property value : List Char) : Option Property :=
  let value := normalName value
  let readers : List ((List Char → Option Property) × List String) :=
    [(ofCategoryName?, ["gc", "General_Category"]),
     (fun value => (scriptOf? value).map .script, ["sc", "Script"]),
     (fun value => (scriptOf? value).map .scriptUse, ["scx", "Script_Extensions"]),
     (fun value => (versionOf? value).map .assignedBy, ["age"]),
     (fun value => (named? GraphemeBreak.names value).map .graphemeBreak,
       ["GCB", "Grapheme_Cluster_Break"]),
     (fun value => (named? WordBreak.names value).map .wordBreak, ["WB", "Word_Break"]),
     (fun value => (named? SentenceBreak.names value).map .sentenceBreak,
       ["SB", "Sentence_Break"])]
  (named? readers (normalName property)).bind fun read => read value

/-- The parts of a text before and behind the first place where a mark stands. -/
def splitAt? (mark : List Char) : List Char → Option (List Char × List Char)
  | [] => none
  | c :: rest =>
    if mark.isPrefixOf (c :: rest) then some ([], (c :: rest).drop mark.length)
    else (splitAt? mark rest).map fun (before, behind) => (c :: before, behind)

/-- The property that a text asks for: a name, or the name of a property, a mark and
the name of a value. -/
def ofText? (text : List Char) : Option Property :=
  match splitAt? ['!', '='] text <|> splitAt? [':'] text <|> splitAt? ['='] text with
  | some (property, value) => ofValue? property value
  | none => ofName? text

end Property

end SingleTable.Character
