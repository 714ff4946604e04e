import Assay.Yaml.Block
import Assay.Yaml.Plain

/-!
# YAML documents

Nodes are written in brackets or in blocks. In blocks the indentation tells what belongs together:
the entries of a mapping and the items of a sequence start at one column, and what belongs to an
entry is further in. A key that is not marked stands on one line with the colon after it.
-/

namespace Assay.Yaml

/-- What a tag says about a scalar. -/
inductive Tag where
  /-- It is a text. -/
  | text
  /-- Its spelling tells what it is. -/
  | spelling
  /-- Nothing. -/
  | unknown

/-- What may stand before a node. -/
structure Properties where
  /-- The name by which the node is referred to. -/
  anchor : Option String
  /-- What the tag says. -/
  tag : Option Tag

namespace Properties

/-- Whether there are none. -/
def isEmpty (properties : Properties) : Bool :=
  properties.anchor.isNone && properties.tag.isNone

/-- The node with what its tag says. -/
def tagged (properties : Properties) (node : Node) : Node :=
  match node, properties.tag with
  | .scalar text _, some .text => .scalar text false
  | .scalar text _, some .spelling => .scalar text true
  | node, _ => node

end Properties

/-- The start of the tags of the core schema. -/
def coreTag : String := "tag:yaml.org,2002:"

/-- The tag of a name in the core schema. -/
def Tag.ofCore (name : List Char) : Tag :=
  let name := String.ofList name
  if name == "str" then .text
  else if ["null", "bool", "int", "float"].contains name then .spelling
  else .unknown

/-- What a tag says, if it starts with a known handle. -/
def Tag.read? (handles : List String) (tag : List Char) : Option Tag :=
  match tag with
  | ['!'] => some .text
  | '!' :: '!' :: name => some (.ofCore name)
  | '!' :: '<' :: rest =>
    if rest.getLast? ≠ some '>' then none
    else if coreTag.toList.isPrefixOf rest then
      some (.ofCore (rest.dropLast.drop coreTag.toList.length))
    else some .unknown
  | '!' :: rest =>
    match rest.dropWhile (· != '!') with
    | [] => some .unknown
    | '!' :: name =>
      let handle := '!' :: (rest.takeWhile (· != '!') ++ ['!'])
      if handles.contains (String.ofList handle) && !name.isEmpty then some .unknown else none
    | _ => none
  | _ => none

namespace Reader

/-- Reads the characters of a name or a tag: up to a blank, a bracket or a comma. -/
def name : Reader (List Char) := do
  let name := (← ahead).takeWhile fun char =>
    !(isBlank char || char == '\n' || isFlowIndicator char)
  skip name.length
  return name

/-- Reads the name of a node. -/
def anchorName : Reader String := do
  skip 1
  let name ← name
  if name.isEmpty then failure
  return String.ofList name

/-- Reads a tag. -/
def tag : Reader Tag := do
  let some tag := Tag.read? (← get).handles (← name) | failure
  return tag

/-- Reads what stands before a node, on one line. Name and tag may come in either order. -/
def properties : Reader Properties := do
  match (← ahead).head? with
  | some '&' =>
    let anchor ← anchorName
    let gap := (← get).gap
    if !gap.crossed && gap.wide && gap.after.rest.head? = some '!' then
      set gap.after
      return ⟨some anchor, some (← tag)⟩
    else return ⟨some anchor, none⟩
  | some '!' =>
    let tag ← tag
    let gap := (← get).gap
    if !gap.crossed && gap.wide && gap.after.rest.head? = some '&' then
      set gap.after
      return ⟨some (← anchorName), some tag⟩
    else return ⟨none, some tag⟩
  | _ => return ⟨none, none⟩

/-- Gives a node the properties that stand before it. -/
def finish (properties : Properties) (node : Node) : Reader Node := do
  let node := properties.tagged node
  if let some name := properties.anchor then
    modify fun source => { source with anchors := (name, node) :: source.anchors }
  return node

/-- Reads the node that a name refers to. -/
def reference : Reader Node := do
  let name ← anchorName
  let some node := (← get).anchors.lookup name | failure
  return node

end Reader

/-- Whether some characters start with a mark that is followed by a blank. -/
def startsEntry (mark : Char) : List Char → Bool
  | char :: rest => char == mark && startsBlank rest
  | [] => false

/-- Whether some characters start with a colon that separates key and value inside brackets. Right
after a key in quotes or brackets any colon does. -/
def startsValue (closed : Bool) : List Char → Bool
  | ':' :: rest => closed || endsIndicator true rest
  | _ => false

/-- Whether a node that starts with a character ends with a quote or a bracket. -/
def isClosed (chars : List Char) : Bool :=
  chars.head?.any fun char => ['"', '\'', '[', '\x7b'].contains char

/-- Whether some characters end an entry inside brackets. -/
def endsEntry (chars : List Char) : Bool :=
  chars.head?.all fun char => [',', ']', '\x7d'].contains char

namespace Reader

/-- Reads a comma, or else a closing bracket, and says whether it was a comma. -/
def separator (closing : Char) : Reader Bool := do
  let found := (← ahead).head?
  skip 1
  if found = some ',' then return true
  if found = some closing then return false
  failure

mutual

/-- Reads a node in brackets or quotes or a plain text. Inside brackets a plain text ends earlier,
and a key of a block is on one line. -/
def content : Nat → Bool → Bool → Int → Reader Node
  | 0, _, _, _ => failure
  | limit + 1, flow, oneLine, indent => do
    let chars ← ahead
    match chars with
    | '\'' :: rest => return .scalar (← quoted (singleQuoted? indent rest)) false
    | '"' :: rest => return .scalar (← quoted (doubleQuoted? indent rest)) false
    | '[' :: _ =>
      skip 1
      return .sequence (← flowItems limit indent)
    | '\x7b' :: _ =>
      skip 1
      return .mapping (← flowEntries limit indent)
    | chars =>
      if startsPlain flow chars then return .scalar (← plain flow oneLine indent) true
      else failure

/-- Reads a node inside brackets, and whether it ends with a quote or a bracket. -/
def flowNode : Nat → Int → Reader (Node × Bool)
  | 0, _ => failure
  | limit + 1, indent => do
    if (← ahead).head? = some '*' then return (← reference, false)
    let properties ← properties
    if !properties.isEmpty then skipGap indent
    let chars ← ahead
    if !properties.isEmpty && (endsEntry chars || startsValue false chars) then
      return (← finish properties .empty, false)
    let node ← content limit true false indent
    return (← finish properties node, isClosed chars)

/-- Reads the value after a colon inside brackets. -/
def flowValue : Nat → Int → Reader Node
  | 0, _ => failure
  | limit + 1, indent => do
    skip 1
    skipGap indent
    if endsEntry (← ahead) then return .empty
    return (← flowNode limit indent).1

/-- Reads the value after a key inside brackets, where there is one. -/
def flowPair : Nat → Int → Reader (Node × Node)
  | 0, _ => failure
  | limit + 1, indent => do
    if startsEntry '?' (← ahead) then
      skip 1
      skipGap indent
    if startsValue false (← ahead) then return (.empty, ← flowValue limit indent)
    if endsEntry (← ahead) then return (.empty, .empty)
    let (key, closed) ← flowNode limit indent
    skipGap indent
    if startsValue closed (← ahead) then return (key, ← flowValue limit indent)
    return (key, .empty)

/-- Reads the items of a sequence in brackets. An item with a colon is a mapping of one entry. -/
def flowItems : Nat → Int → Reader (List Node)
  | 0, _ => failure
  | limit + 1, indent => do
    skipGap indent
    let chars ← ahead
    if chars.head? = some ']' then
      skip 1
      return []
    if endsEntry chars then failure
    let line := (← get).line
    let item ←
      if startsEntry '?' chars || startsValue false chars then
        pure (Node.mapping [← flowPair limit indent])
      else do
        let (node, closed) ← flowNode limit indent
        skipGap indent
        if startsValue closed (← ahead) then
          if (← get).line ≠ line then failure
          pure (Node.mapping [(node, ← flowValue limit indent)])
        else pure node
    skipGap indent
    if (← separator ']') then return item :: (← flowItems limit indent) else return [item]

/-- Reads the entries of a mapping in brackets. -/
def flowEntries : Nat → Int → Reader (List (Node × Node))
  | 0, _ => failure
  | limit + 1, indent => do
    skipGap indent
    let chars ← ahead
    if chars.head? = some '\x7d' then
      skip 1
      return []
    if endsEntry chars then failure
    let entry ← flowPair limit indent
    skipGap indent
    if (← separator '\x7d') then return entry :: (← flowEntries limit indent) else return [entry]

end

/-- Reads a key and the colon after it, on one line. A key may be empty. -/
def blockKey (limit : Nat) : Reader Node := do
  let line := (← get).line
  let key ←
    if (← ahead).head? = some '*' then reference
    else do
      let properties ← properties
      skipBlanks
      let node ← if startsEntry ':' (← ahead) then pure Node.empty else content limit false true 0
      finish properties node
  skipBlanks
  let source ← get
  if source.line ≠ line || !startsEntry ':' source.rest then failure
  skip 1
  return key

/-- Whether a key with a colon follows. -/
def isKeyAhead (limit : Nat) : Reader Bool := do
  return ((blockKey limit).run (← get)).isSome

mutual

/-- Reads the node of an entry. A collection in a block starts on a line of its own, unless it may
start right away; a sequence as the value of a key needs no further indentation. -/
def blockNode : Nat → Int → Bool → Bool → Reader Node
  | 0, _, _, _ => failure
  | limit + 1, indent, mayStart, isValue => do
    let gap := (← get).gap
    let after := gap.after
    if after.atEnd then return .empty
    let mayStart := (mayStart || gap.crossed) && !gap.tabbed
    if gap.crossed && after.column ≤ indent then
      if isValue && after.column = indent && mayStart && startsEntry '-' after.rest then
        set after
        return .sequence (← blockItems limit after.column)
      else return .empty
    set after
    if mayStart && startsEntry '-' after.rest then
      return .sequence (← blockItems limit after.column)
    if mayStart && (startsEntry '?' after.rest || (← isKeyAhead limit)) then
      return .mapping (← blockEntries limit after.column)
    blockLeaf limit indent isValue

/-- Reads a node that is no collection in a block, or one whose properties stand on the line before
it. -/
def blockLeaf : Nat → Int → Bool → Reader Node
  | 0, _, _ => failure
  | limit + 1, indent, isValue => do
    if (← ahead).head? = some '*' then
      let node ← reference
      lineEnd
      return node
    let properties ← properties
    let gap := (← get).gap
    if !properties.isEmpty && (gap.crossed || gap.after.rest.isEmpty) then
      finish properties (← blockNode limit indent false isValue)
    else do
      set gap.after
      let chars ← ahead
      if chars.head? = some '|' || chars.head? = some '>' then
        finish properties (.scalar (← block indent) false)
      else do
        let node ← content limit false false indent
        lineEnd
        finish properties node

/-- Reads the items of a sequence whose dashes are at a column. -/
def blockItems : Nat → Nat → Reader (List Node)
  | 0, _ => failure
  | limit + 1, column => do
    skip 1
    let item ← blockNode limit column true false
    let gap := (← get).gap
    let after := gap.after
    if !after.atEnd && after.column = column && !gap.tabbed && startsEntry '-' after.rest then
      set after
      return item :: (← blockItems limit column)
    else return [item]

/-- Reads an entry of a mapping whose keys are at a column. -/
def blockEntry : Nat → Nat → Reader (Node × Node)
  | 0, _ => failure
  | limit + 1, column => do
    if startsEntry '?' (← ahead) then
      skip 1
      let key ← blockNode limit column true true
      let after := (← get).gap.after
      if after.column = column && startsEntry ':' after.rest then
        set after
        skip 1
        return (key, ← blockNode limit column true true)
      else return (key, .empty)
    else do
      let key ← blockKey limit
      return (key, ← blockNode limit column false true)

/-- Reads the entries of a mapping whose keys are at a column. -/
def blockEntries : Nat → Nat → Reader (List (Node × Node))
  | 0, _ => failure
  | limit + 1, column => do
    let entry ← blockEntry limit column
    let gap := (← get).gap
    let after := gap.after
    if after.atEnd || after.column < column then return [entry]
    if column < after.column || gap.tabbed then failure
    set after
    return entry :: (← blockEntries limit column)

end

/-- Splits a line into words. -/
def words (line : List Char) : List String :=
  ((Text.splitBy isBlank line).filter (!·.isEmpty)).map String.ofList

/-- Reads the directives before a document, each on a line of its own, and says whether there are
any. -/
def directives : Nat → Reader Bool
  | 0 => failure
  | limit + 1 => do
    let gap := (← get).gap
    if gap.after.rest.head? = some '%' && gap.after.column = 0 then
      set gap.after
      let line := (← ahead).takeWhile (· != '\n')
      skip (line.length + 1)
      match words line with
      | "%TAG" :: handle :: _ =>
        modify fun source => { source with handles := handle :: source.handles }
      | _ => pure ()
      let _ ← directives limit
      return true
    else return false

/-- Reads the end of a stream: nothing but lines that end a document. -/
def streamEnd : Nat → Reader Unit
  | 0 => failure
  | limit + 1 => do
    let after := (← get).gap.after
    if after.rest.isEmpty then return
    if after.column = 0 && isMarker after.rest && after.rest.head? = some '.' then
      set after
      skip 3
      lineEnd
      streamEnd limit
    else failure

/-- Reads a stream of one document. A document after directives starts with a line of its own. -/
def document (limit : Nat) : Reader Node := do
  let afterDirectives ← directives limit
  let after := (← get).gap.after
  if after.rest.isEmpty then failure
  let marked := after.column = 0 && isMarker after.rest && after.rest.head? = some '-'
  if afterDirectives && !marked then failure
  let node ←
    if marked then
      set after
      skip 3
      blockNode limit (-1) false false
    else blockNode limit (-1) true false
  streamEnd limit
  return node

end Reader

/-- Reads a text that is a stream of one document. -/
def read? (text : String) : Option Node :=
  let chars :=
    match text.toList with
    | '\ufeff' :: rest => lineFeeds rest
    | chars => lineFeeds chars
  if chars.all isPrintable then
    (Reader.document (8 * chars.length + 64)).run' ⟨chars, 0, 0, [], []⟩
  else none

end Assay.Yaml
