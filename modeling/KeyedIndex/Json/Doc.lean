import KeyedIndex.Json.Token

/-!
JSON texts as trees. A text is read into a tree as far as it can be followed: the
tree of a faulty text holds the fault at its place, so that whoever walks through
the tree in the order of the text meets first what stands first (`Doc.ofText`).
-/
namespace KeyedIndex.Json

/-- What stands where something else is expected. -/
inductive Found where
  | null
  | bool (value : Bool)
  | number (value : Numeral)
  | text (content : String)
  | sequence
  | map

/-- What a reader finds at a scalar. -/
def Scalar.found : Scalar → Except Fault Found
  | .null => .ok .null
  | .bool value => .ok (.bool value)
  | .number value => .ok (.number value)
  | .text content _ => .ok (.text content)
  | .unreadable => .error .malformed
  | .spoiled reading _ | .cut reading _ => .error reading

/-- What one who passes over a scalar finds. -/
def Scalar.pass : Scalar → Except Fault Unit
  | .spoiled _ passing | .cut _ passing => .error passing
  | _ => .ok ()

/-- How an array or object ends. -/
inductive Ending where
  | closed
  | cut (fault : Fault)

/-- The name of a member. -/
inductive Key where
  | name (content : String) (plain : Bool)
  /-- Well delimited, but no name. -/
  | unreadable
  /-- No name stands here: the faults that a reader and one who passes over find, and what
      is found by a reader who would take any value. -/
  | absent (reading passing : Fault) (found : Except Fault Found)

/-- A JSON text as a tree, in the order of the text. -/
inductive Doc where
  | scalar (value : Scalar)
  | array (items : List Doc) (ending : Ending)
  | object (members : List (Key × Doc)) (ending : Ending)

def Doc.cut (fault : Fault) : Doc := .scalar (.cut fault fault)

/-- What a reader finds at a value. -/
def Doc.found : Doc → Except Fault Found
  | .scalar value => value.found
  | .array _ _ => .ok .sequence
  | .object _ _ => .ok .map

def Ending.check : Ending → Except Fault Unit
  | .closed => .ok ()
  | .cut fault => .error fault

def Key.pass : Key → Except Fault Unit
  | .absent _ passing _ => .error passing
  | _ => .ok ()

mutual
/-- What one who passes over a value finds: its first fault. -/
def Doc.pass : Doc → Except Fault Unit
  | .scalar value => value.pass
  | .array items ending => do
    passItems items
    ending.check
  | .object members ending => do
    passMembers members
    ending.check

def passItems : List Doc → Except Fault Unit
  | [] => .ok ()
  | item :: rest => do
    item.pass
    passItems rest

def passMembers : List (Key × Doc) → Except Fault Unit
  | [] => .ok ()
  | (key, value) :: rest => do
    key.pass
    value.pass
    passMembers rest
end

/-! ### From tokens to trees -/

/-- An array or object that has not ended: what stands in it before the current value,
    last first. -/
inductive Frame where
  | items (before : List Doc)
  | member (before : List (Key × Doc)) (key : Key)

/-- What may come next. -/
inductive State where
  | done (doc : Doc)
  | value (frames : List Frame)
  | itemOrEnd (frames : List Frame)
  | afterItem (items : List Doc) (frames : List Frame)
  | nameOrEnd (frames : List Frame)
  | name (members : List (Key × Doc)) (frames : List Frame)
  | colon (members : List (Key × Doc)) (key : Key) (frames : List Frame)
  | afterMember (members : List (Key × Doc)) (frames : List Frame)

/-- Go on after a value. -/
def State.after (doc : Doc) : List Frame → State
  | [] => .done doc
  | .items before :: frames => .afterItem (doc :: before) frames
  | .member before key :: frames => .afterMember ((key, doc) :: before) frames

/-- The whole tree, when nothing can be followed beyond a value. -/
def abandon (fault : Fault) (doc : Doc) : List Frame → Doc
  | [] => doc
  | .items before :: frames => abandon fault (.array (doc :: before).reverse (.cut fault)) frames
  | .member before key :: frames =>
    abandon fault (.object ((key, doc) :: before).reverse (.cut fault)) frames

/-- The tree of a text that ends here or goes on with something else than what may come. -/
def State.abandon (fault : Fault) : State → Doc
  | .done doc => doc
  | .value frames => Json.abandon fault (.cut fault) frames
  | .itemOrEnd frames => Json.abandon fault (.array [] (.cut fault)) frames
  | .afterItem items frames => Json.abandon fault (.array items.reverse (.cut fault)) frames
  | .nameOrEnd frames => Json.abandon fault (.object [] (.cut fault)) frames
  | .name members frames =>
    let missing : Key × Doc := (.absent fault fault (.error fault), .cut fault)
    Json.abandon fault (.object (missing :: members).reverse (.cut fault)) frames
  | .colon members key frames =>
    Json.abandon fault (.object ((key, .cut fault) :: members).reverse (.cut fault)) frames
  | .afterMember members frames =>
    Json.abandon fault (.object members.reverse (.cut fault)) frames

/-- A value begins with a token. -/
def State.ofValue (frames : List Frame) : Token → State
  | .scalar leaf => .after (.scalar leaf) frames
  | .brokenText reading passing => .after (.scalar (.cut reading passing)) frames
  | .openArray => .itemOrEnd frames
  | .openObject => .nameOrEnd frames
  | _ => .done (Json.abandon .malformed (.cut .malformed) frames)

/-- What a token is to one who expects a name. -/
def Key.ofToken : Token → Key
  | .scalar (.text content plain) => .name content plain
  | .scalar .unreadable => .unreadable
  | .scalar value => .absent .malformed .malformed value.found
  | .brokenText reading passing => .absent reading passing (.error reading)
  | .openArray => .absent .malformed .malformed (.ok .sequence)
  | .openObject => .absent .malformed .malformed (.ok .map)
  | _ => .absent .malformed .malformed (.error .malformed)

/-- Take the next token. -/
def State.step : State → Token → State
  | .done doc, _ => .done doc
  | .value frames, token => .ofValue frames token
  | .itemOrEnd frames, .closeArray => .after (.array [] .closed) frames
  | .itemOrEnd frames, token => .ofValue (.items [] :: frames) token
  | .afterItem items frames, .comma => .value (.items items :: frames)
  | .afterItem items frames, .closeArray => .after (.array items.reverse .closed) frames
  | .nameOrEnd frames, .closeObject => .after (.object [] .closed) frames
  | .nameOrEnd frames, token => .colon [] (.ofToken token) frames
  | .name members frames, token => .colon members (.ofToken token) frames
  | .colon members key frames, .colon => .value (.member members key :: frames)
  | .afterMember members frames, .comma => .name members frames
  | .afterMember members frames, .closeObject => .after (.object members.reverse .closed) frames
  | state, _ => .done (state.abandon .malformed)

/-- Take tokens until the value is complete, and what follows it. -/
def State.run : State → List Token → Doc × List Token
  | .done doc, rest => (doc, rest)
  | state, [] => (state.abandon .truncated, [])
  | state, token :: rest => (state.step token).run rest

/-- The tree of a text, and whether anything follows it. -/
def Doc.ofText (text : String) : Doc × Bool :=
  let (doc, rest) := (State.value []).run (tokens text.toList)
  (doc, !rest.isEmpty)

end KeyedIndex.Json
