import SingleTable.Json.Basic
import SingleTable.Json.Token

/-!
# JSON documents

The tree of a JSON text is built from its tokens.  Where the tokens stop making
sense the tree ends in an unreadable part.  The contents of containers nested
deeper than `maxDepth` are read only in so far as they can be skipped.
-/

namespace SingleTable.Json

/-- The deepest level at which the contents of a container can be read. -/
def maxDepth : Nat := 127

/-- Tokens that are left, fewer than a given number; or none when the text broke off. -/
abbrev Left (length : Nat) := Option { rest : List Token // rest.length < length }

namespace Left

/-- The tokens behind the first one. -/
def behind {token : Token} (rest : List Token) : Left (token :: rest).length :=
  some ⟨rest, Nat.lt_succ_self _⟩

/-- Tokens left of a shorter text are left of a longer one. -/
def widen {shorter longer : Nat} (fits : shorter ≤ longer) : Left shorter → Left longer
  | some ⟨rest, short⟩ => some ⟨rest, Nat.lt_of_lt_of_le short fits⟩
  | none => none

theorem length_lt {first second third : Token} {rest behind : List Token}
    (hShort : (third :: behind).length < rest.length) :
    behind.length < (first :: second :: rest).length := by
  simp only [List.length_cons] at hShort ⊢
  omega

end Left

/-- An array at a nesting level, of which `sound` says whether its end was met. -/
def arrayAt (depth : Nat) (items : List Json) (sound : Bool) : Json :=
  if maxDepth < depth then .array [.unreadable sound] else .array items

/-- An object at a nesting level, of which `sound` says whether its end was met. -/
def objectAt (depth : Nat) (members : List (String × Json)) (ending : Ending)
    (sound : Bool) : Json :=
  if maxDepth < depth then .object [] (.unreadable sound) else .object members ending

/-- Put a member in front of the others.  After a name that cannot be read, an
object has only an unreadable end. -/
def consMember (name : Option String) (value : Json) (sound : Bool)
    (others : List (String × Json) × Ending) : List (String × Json) × Ending :=
  match name with
  | some name => ((name, value) :: others.1, others.2)
  | none => ([], .unreadable sound)

mutual

/-- The value at the front of the tokens, inside `depth` containers. -/
def readValue (depth : Nat) (tokens : List Token) : Json × Left tokens.length :=
  match tokens with
  | .null :: rest => (.null, .behind rest)
  | .bool value :: rest => (.bool value, .behind rest)
  | .number literal :: rest => (.number literal, .behind rest)
  | .string (some text) :: rest => (.string text, .behind rest)
  | .string none :: rest => (.unreadable true, .behind rest)
  | .beginArray :: .endArray :: rest =>
    (arrayAt (depth + 1) [] true, (Left.behind rest).widen (Nat.le_succ _))
  | .beginArray :: rest =>
    let (items, left) := readItems (depth + 1) rest
    (arrayAt (depth + 1) items left.isSome, left.widen (Nat.le_succ _))
  | .beginObject :: .endObject :: rest =>
    (objectAt (depth + 1) [] .closed true, (Left.behind rest).widen (Nat.le_succ _))
  | .beginObject :: rest =>
    let ((members, ending), left) := readMembers (depth + 1) rest
    (objectAt (depth + 1) members ending left.isSome, left.widen (Nat.le_succ _))
  | _ => (.unreadable false, none)
termination_by (tokens.length, 0)

/-- The items at the front of the tokens up to the end of their array. -/
def readItems (depth : Nat) (tokens : List Token) : List Json × Left tokens.length :=
  match readValue depth tokens with
  | (item, none) => ([item], none)
  | (item, some ⟨.endArray :: rest, short⟩) => ([item], some ⟨rest, Nat.lt_of_succ_lt short⟩)
  | (item, some ⟨.comma :: rest, short⟩) =>
    let (items, left) := readItems depth rest
    (item :: items, left.widen (Nat.le_of_lt (Nat.lt_of_succ_lt short)))
  | (item, some _) => ([item, .unreadable false], none)
termination_by (tokens.length, 1)
decreasing_by
  · exact Prod.Lex.right _ (by decide)
  · exact Prod.Lex.left _ _ (Nat.lt_of_succ_lt short)

/-- The members at the front of the tokens up to the end of their object. -/
def readMembers (depth : Nat) (tokens : List Token) :
    (List (String × Json) × Ending) × Left tokens.length :=
  match tokens with
  | .string name :: .colon :: rest =>
    match readValue depth rest with
    | (value, none) => (consMember name value false ([], .unreadable false), none)
    | (value, some ⟨.endObject :: rest', short⟩) =>
      (consMember name value true ([], .closed), some ⟨rest', Left.length_lt short⟩)
    | (value, some ⟨.comma :: rest', short⟩) =>
      let (others, left) := readMembers depth rest'
      (consMember name value left.isSome others,
        left.widen (Nat.le_of_lt (Left.length_lt short)))
    | (value, some _) => (consMember name value false ([], .unreadable false), none)
  | .string name :: _ =>
    (consMember name (.unreadable false) false ([], .unreadable false), none)
  | _ => (([], .unreadable false), none)
termination_by (tokens.length, 1)
decreasing_by
  · exact Prod.Lex.left _ _ (Nat.lt_succ_of_lt (Nat.lt_succ_self _))
  · exact Prod.Lex.left _ _ (Left.length_lt short)

end

/-- The tree of a text, and whether nothing but white space follows it. -/
def ofText (text : String) : Json × Bool :=
  match readValue 0 (Token.ofText text.toList) with
  | (value, some ⟨[], _⟩) => (value, true)
  | (value, _) => (value, false)

end SingleTable.Json
