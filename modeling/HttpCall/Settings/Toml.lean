import HttpCall.Settings.Toml.Token
import HttpCall.Settings.Toml.Scalar
import HttpCall.Settings.Toml.Table

/-!
# TOML documents

A settings file is a TOML document: lines of `key = value`, table headers `[a.b]` and
array-of-tables headers `[[a.b]]`, comments after `#`. Values are strings, integers,
floats, booleans, dates and times, arrays and inline tables; inline tables may span
lines, hold comments and end with a comma. The document becomes a table of settings
whose values all have the file as their origin.

The document is read from its tokens in one pass, and its faults fall into three ranks:

* a fault of its structure (a missing `=`, `]`, `}` or comma, something after a value
  on its line, a bad character in a comment, a carriage return without a line feed,
  containers nested more than 80 deep) stops the reading and is the answer;
* a fault of a value or a key (a string, a number, a date, a key set twice, a dotted
  key that runs into a value) is kept, the first one only, and the reading goes on;
  it is the answer when the structure has no fault;
* a number that fits no 64-bit value is the answer when nothing else is wrong, the
  first in the order of the keys.

An unquoted value runs on over blanks to the next atom on its line, so that a date and
a time with a space between them are one value (and `1 2` one bad value).
-/

namespace HttpCall.Toml

/-- Reading a document: a fault of its structure stops the reading at once, while the
first fault of its values is kept as the state and the reading goes on. -/
abbrev Reading := StateT (Option TomlError) (Except TomlError)

/-- Stop at a fault of the structure. -/
def halt {α : Type} (start stop : Nat) (message : String) : Reading α :=
  throw (.spanned start stop message)

/-- Keep a fault of a value, unless one came before it. -/
def keep (e : TomlError) : Reading Unit :=
  modify fun kept => kept.or (some e)

/-- The result of reading a value, or `fallback` with its fault kept. -/
def keeping {α : Type} (r : Except TomlError α) (fallback : α) : Reading α :=
  match r with
  | .ok a => pure a
  | .error e => do keep e; pure fallback

/-- The deepest nesting of arrays and inline tables. -/
def maxDepth : Nat := 80

/-- Check blanks, comments and line breaks: a comment holds no control character but
the tab, and a carriage return comes with a line feed. -/
def checkSpace (t : Token) : Reading Unit :=
  match t.kind with
  | .comment =>
    match t.text.findIdx? isControl with
    | some k => halt (t.start + k) (t.start + k + 1)
        (expecting "invalid comment character" ["printable characters"])
    | none => pure ()
  | .newline =>
    if t.text = ['\r'] then
      halt t.stop t.stop (expecting "carriage return must be followed by newline" ["newline"])
    else pure ()
  | _ => pure ()

/-- The tokens after blanks. -/
def dropBlanks (ts : List Token) : List Token :=
  ts.dropWhile (·.kind == TokenKind.blank)

/-- A key of a dotted key, from its token. -/
def keyPart (t : Token) : Reading KeyPart := do
  let name ← keeping (decodeKey t.kind t.start t.text) (String.ofList t.text)
  pure ⟨name, t.start, t.stop⟩

/-- An empty key at a position, where a key is missing. -/
def missingKey (pos : Nat) : Reading KeyPart := do
  let name ← keeping (decodeKey .atom pos []) ""
  pure ⟨name, pos, pos⟩

mutual

/-- Read on after the keys `acc` (reversed) of a dotted key, whose last token ended at
`lastEnd`: a dot and a key, again and again, blanks around the dots. The keys, whether
they ended at a key, where their last token ended, and the tokens after them. -/
def readDots : Nat → Nat → List KeyPart → List Token →
    Reading (List KeyPart × Bool × Nat × List Token)
  | 0, lastEnd, acc, ts => pure (acc.reverse, true, lastEnd, ts)
  | fuel + 1, lastEnd, acc, ts =>
    match dropBlanks ts with
    | t :: rest =>
      if t.kind == TokenKind.dot then readAfterDot fuel t.stop acc rest
      else pure (acc.reverse, true, lastEnd, t :: rest)
    | [] => pure (acc.reverse, true, lastEnd, [])

/-- Read on after a dot of a dotted key: a key, after blanks, where a further dot or any
other token stands for a missing key. -/
def readAfterDot : Nat → Nat → List KeyPart → List Token →
    Reading (List KeyPart × Bool × Nat × List Token)
  | 0, lastEnd, acc, ts => pure (acc.reverse, false, lastEnd, ts)
  | fuel + 1, lastEnd, acc, ts =>
    match ts with
    | t :: rest =>
      if t.kind == TokenKind.blank then readAfterDot fuel lastEnd acc rest
      else if t.kind == TokenKind.dot then do
        let k ← missingKey t.start
        readAfterDot fuel t.stop (k :: acc) rest
      else if t.kind.isKey then do
        let k ← keyPart t
        readDots fuel t.stop (k :: acc) rest
      else do
        let k ← missingKey t.start
        pure ((k :: acc).reverse, false, lastEnd, ts)
    | [] => pure (acc.reverse, false, lastEnd, [])

end

/-- An unquoted value that starts with the token `first`: further atoms and dots, and
atoms after blanks on the same line. Its text, its end and the tokens after it. -/
def joinScalar (first : Token) : List Token → List Char × Nat × List Token
  | t :: rest =>
    if t.kind == TokenKind.atom || t.kind == TokenKind.dot then
      let (text, stop, more) := joinScalar t rest
      (first.text ++ text, stop, more)
    else if t.kind == TokenKind.blank then
      match rest with
      | a :: more =>
        if a.kind == TokenKind.atom then
          let (text, stop, more) := joinScalar a more
          (first.text ++ t.text ++ text, stop, more)
        else (first.text, first.stop, t :: rest)
      | [] => (first.text, first.stop, t :: rest)
    else (first.text, first.stop, t :: rest)
  | [] => (first.text, first.stop, [])

/-- What an inline table waits for. -/
inductive Awaiting where
  | key
  | equals
  | value
  | comma
  deriving DecidableEq, Repr, Inhabited

/-- The words for what an inline table waits for. -/
def Awaiting.words : Awaiting → String
  | .key => "key"
  | .equals => "`=`"
  | .value => "value"
  | .comma => "`,`"

mutual

/-- Read a value from its first token, inside `depth` arrays and inline tables: the
value, where its last token ended, and the tokens after it. -/
def readValue : Nat → Nat → List Token → Reading (TomlValue × Nat × List Token)
  | 0, _, _ => throw (.unspanned "document nested too deeply")
  | fuel + 1, depth, ts =>
    match ts with
    | [] => pure (.scalar (.str ""), 0, [])
    | t :: rest =>
      match t.kind with
      | .comment | .comma | .newline | .eof | .blank => do
        let v ← keeping (decodeScalar t.start []) (.scalar (.str ""))
        pure (v, t.start, ts)
      | .equals => halt t.start t.stop (expecting "extra `=`" [])
      | .openBrace =>
        if depth ≥ maxDepth then halt t.start t.stop "cannot recurse further; max recursion depth met"
        else readInline fuel (depth + 1) t.stop .key [] [] rest
      | .closeBrace => halt t.start t.start (expecting "missing inline table opening" ["`\x7b`"])
      | .openBracket =>
        if depth ≥ maxDepth then halt t.start t.stop "cannot recurse further; max recursion depth met"
        else readArray fuel (depth + 1) t.stop true [] rest
      | .closeBracket => halt t.start t.start (expecting "missing array opening" ["`[`"])
      | .dot | .atom => do
        let (text, stop, rest) := joinScalar t rest
        let v ← keeping (decodeScalar t.start text) (.scalar (.str ""))
        pure (v, stop, rest)
      | kind => do
        let s ← keeping (decodeString kind t.start t.text) ""
        pure (.scalar (.str s), t.stop, rest)

/-- Read the items of an array after its opening bracket; `needsValue` until an item
follows the last comma, `acc` holds the items so far, reversed, and `lastEnd` is where
the last token that was no space ended. -/
def readArray : Nat → Nat → Nat → Bool → List TomlValue → List Token →
    Reading (TomlValue × Nat × List Token)
  | 0, _, _, _, _, _ => throw (.unspanned "document nested too deeply")
  | fuel + 1, depth, lastEnd, needsValue, acc, ts =>
    match ts with
    | [] => halt lastEnd lastEnd (expecting "unclosed array" ["`]`"])
    | t :: rest =>
      match t.kind with
      | .blank => readArray fuel depth lastEnd needsValue acc rest
      | .comment | .newline => do
        checkSpace t
        readArray fuel depth lastEnd needsValue acc rest
      | .eof => halt lastEnd lastEnd (expecting "unclosed array" ["`]`"])
      | .comma =>
        if needsValue then halt t.start t.stop (expecting "extra comma in array" ["value"])
        else readArray fuel depth t.stop true acc rest
      | .closeBracket => pure (.array acc.reverse, t.stop, rest)
      | _ =>
        if needsValue then do
          let (v, stop, rest) ← readValue fuel depth ts
          readArray fuel depth stop false (v :: acc) rest
        else halt t.start t.start (expecting "missing comma between array elements" ["`,`"])

/-- Read the entries of an inline table after its opening brace: `awaiting` says what
comes next, `pending` holds the keys read for the next value, `entries` the entries so
far, and `lastEnd` is where the last token that was no space ended. -/
def readInline : Nat → Nat → Nat → Awaiting → List KeyPart → List (String × TomlValue) →
    List Token → Reading (TomlValue × Nat × List Token)
  | 0, _, _, _, _, _, _ => throw (.unspanned "document nested too deeply")
  | fuel + 1, depth, lastEnd, awaiting, pending, entries, ts =>
    match ts with
    | [] => halt lastEnd lastEnd (expecting "unclosed inline table" ["`\x7d`"])
    | t :: rest =>
      match t.kind with
      | .blank => readInline fuel depth lastEnd awaiting pending entries rest
      | .comment | .newline => do
        checkSpace t
        readInline fuel depth lastEnd awaiting pending entries rest
      | .eof => halt lastEnd lastEnd (expecting "unclosed inline table" ["`\x7d`"])
      | .comma =>
        if awaiting == .comma then readInline fuel depth t.stop .key [] entries rest
        else halt t.start t.stop (expecting "extra comma in inline table" [awaiting.words])
      | .equals =>
        match awaiting with
        | .key => do
          let k ← missingKey t.start
          readInline fuel depth t.stop .value [k] entries rest
        | .equals => readInline fuel depth t.stop .value pending entries rest
        | _ => halt t.start t.stop
            (expecting "extra assignment between key-value pairs" [awaiting.words])
      | .closeBrace =>
        match awaiting with
        | .key | .comma => pure (.table entries false, t.stop, rest)
        | .equals => halt t.start t.start (expecting "key with no value" ["`=`"])
        | .value => do
          let v ← keeping (decodeScalar t.start []) (.scalar (.str ""))
          let entries ← keeping (insertInline v entries pending) entries
          pure (.table entries false, t.stop, rest)
      | kind =>
        match awaiting with
        | .key =>
          if kind == TokenKind.dot then do
            let k ← missingKey t.start
            let (keys, _, stop, rest) ← readDots (ts.length + 1) lastEnd [k] ts
            readInline fuel depth stop .equals keys entries rest
          else if kind.isKey then do
            let k ← keyPart t
            let (keys, _, stop, rest) ← readDots (ts.length + 1) t.stop [k] rest
            readInline fuel depth stop .equals keys entries rest
          else halt t.start t.start (expecting "invalid inline table" ["key"])
        | .equals =>
          halt t.start t.start (expecting "missing assignment between key-value pairs" ["`=`"])
        | .value => do
          let (v, stop, rest) ← readValue fuel depth ts
          let entries ← keeping (insertInline v entries pending) entries
          readInline fuel depth stop .comma [] entries rest
        | .comma =>
          halt t.start t.start (expecting "missing comma between key-value pairs" ["`,`"])

end

/-- Check the end of a line after a value or a header: blanks, then a comment, a line
break or the end. The tokens after the comment or the break. -/
def lineEnd : List Token → Reading (List Token)
  | [] => pure []
  | t :: rest =>
    match t.kind with
    | .blank => lineEnd rest
    | .comment | .newline => do
      checkSpace t
      pure rest
    | .eof => pure (t :: rest)
    | _ => halt t.start t.start (expecting "unexpected key or value" ["newline", "`#`"])

/-- Skip the rest of a line that cannot be read, checking its comments and breaks. -/
def skipLine : List Token → Reading (List Token)
  | [] => pure []
  | t :: rest =>
    match t.kind with
    | .newline => do
      checkSpace t
      pure rest
    | .eof => pure (t :: rest)
    | .comment => do
      checkSpace t
      skipLine rest
    | _ => skipLine rest

/-- The state of a document while it is read: its tables, and the keys of the last
header, where values go. -/
structure Document where
  root : List (String × Node)
  current : List KeyPart

/-- Read `= value` and the end of the line after the keys of a line, into the document;
`fuel` bounds the nesting of the value. -/
def readAssignment (fuel : Nat) (doc : Document) (keys : List KeyPart) (ts : List Token) :
    Reading (Document × List Token) := do
  let (v, _, rest) ← readValue fuel 0 (dropBlanks ts)
  let root ← keeping (setValue doc.root doc.current keys v) doc.root
  let rest ← lineEnd rest
  pure ({ doc with root := root }, rest)

/-- Read the keys of a line that have been read up to `ts`, then `=` and the value. -/
def readKeyValue (fuel : Nat) (doc : Document) (keys : List KeyPart) (ts : List Token) :
    Reading (Document × List Token) :=
  match dropBlanks ts with
  | t :: rest =>
    if t.kind == TokenKind.equals then readAssignment fuel doc keys rest
    else halt t.start t.start (expecting "key with no value" ["`=`"])
  | [] => pure (doc, [])

/-- Read a header after its opening bracket `opening`: `[key]`, or `[[key]]` when a
second bracket follows at once. -/
def readHeader (doc : Document) (opening : Token) (ts : List Token) :
    Reading (Document × List Token) := do
  let (isArray, ts) := match ts with
    | t :: rest => if t.kind == TokenKind.openBracket then (true, rest) else (false, ts)
    | [] => (false, ts)
  let (keys, valid, lastEnd, rest) ← readAfterDot (ts.length + 1) opening.stop [] ts
  match dropBlanks rest with
  | c :: more =>
    if c.kind == TokenKind.closeBracket then
      if isArray then
        match more with
        | c2 :: more2 =>
          if c2.kind == TokenKind.closeBracket then do
            let root ← keeping (appendTable doc.root keys) doc.root
            let rest ← lineEnd more2
            pure ({ root := root, current := keys }, rest)
          else halt c.stop c.stop (expecting "unclosed array table" ["`]`"])
        | [] => halt c.stop c.stop (expecting "unclosed array table" ["`]`"])
      else do
        let root ← keeping (defineTable doc.root keys) doc.root
        let rest ← lineEnd more
        pure ({ root := root, current := keys }, rest)
    else if valid then
      if isArray then halt lastEnd lastEnd (expecting "unclosed array table" ["`]]`"])
      else halt lastEnd lastEnd (expecting "unclosed table" ["`]`"])
    else do
      let rest ← skipLine (c :: more)
      pure ({ doc with current := keys }, rest)
  | [] => pure (doc, [])

/-- Read the lines of a document; `fuel` bounds the lines and `depthFuel` the nesting
of values. -/
def readLines (depthFuel : Nat) : Nat → Document → List Token → Reading Document
  | 0, doc, _ => pure doc
  | fuel + 1, doc, ts =>
    match ts with
    | [] => pure doc
    | t :: rest =>
      match t.kind with
      | .eof => pure doc
      | .blank => readLines depthFuel fuel doc rest
      | .comment | .newline => do
        checkSpace t
        readLines depthFuel fuel doc rest
      | .openBracket => do
        let (doc, rest) ← readHeader doc t rest
        readLines depthFuel fuel doc rest
      | .closeBracket => halt t.start t.start (expecting "missing table open" ["`[`"])
      | .equals => do
        let k ← missingKey t.start
        let (doc, rest) ← readAssignment depthFuel doc [k] rest
        readLines depthFuel fuel doc rest
      | .dot => do
        let k ← missingKey t.start
        let (keys, _, _, rest) ← readDots (ts.length + 1) t.start [k] ts
        let (doc, rest) ← readKeyValue depthFuel doc keys rest
        readLines depthFuel fuel doc rest
      | .comma | .openBrace | .closeBrace => halt t.start t.start (expecting "missing key" ["key"])
      | _ => do
        let k ← keyPart t
        let (keys, _, _, rest) ← readDots (rest.length + 1) t.stop [k] rest
        let (doc, rest) ← readKeyValue depthFuel doc keys rest
        readLines depthFuel fuel doc rest

/-- Read a document into a table of settings with the given origin. -/
def parse (text : String) (origin : Option String) : Except TomlError Setting := do
  let tokens := Token.scan text.toList
  let (doc, kept) ← (readLines (3 * tokens.length + 3) (tokens.length + 1) ⟨[], []⟩ tokens).run none
  match kept with
  | some e => .error e
  | none =>
    match firstByKey (Node.entryReasons doc.root) with
    | some reason => .error (.unspanned reason)
    | none => pure (.mk origin (.table (Node.entriesToSettings origin doc.root)))

end HttpCall.Toml
