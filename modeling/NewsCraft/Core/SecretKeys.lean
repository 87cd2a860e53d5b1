import NewsCraft.Core.Json

/-!
# Secret names

A mapping key, a query parameter or the name before a colon is secret when its case-folded
form contains one of a few words. Counters of tokens and sessions contain such words too, so
a few names keep a value that is a number.

Python's case folding, its Unicode classes and the literals `json.loads` and
`ast.literal_eval` read are parameters.
-/

namespace NewsCraft

/-- A text as its characters. -/
abbrev Text := List Char

/-- `str.isspace`, of an ASCII character. -/
def asciiSpace (c : Char) : Bool :=
  c = ' ' || ('\t' ≤ c && c ≤ '\r') || ('\x1c' ≤ c && c ≤ '\x1f')

/-- What Python's library says of texts: tables that agree with ASCII. -/
structure PythonText where
  /-- `str.casefold`, of one character. -/
  casefold : Char → Text
  /-- `\d`, `\s` and `\w`. -/
  isDigit : Char → Bool
  isSpace : Char → Bool
  isWord : Char → Bool
  /-- The mapping that `json.loads`, or else `ast.literal_eval`, reads. -/
  readMapping : Text → Option (List (String × Json))
  casefold_ascii : ∀ c, c.toNat < 128 → casefold c = [c.toLower]
  isDigit_ascii : ∀ c, c.toNat < 128 → isDigit c = c.isDigit
  isSpace_ascii : ∀ c, c.toNat < 128 → isSpace c = asciiSpace c
  isWord_ascii : ∀ c, c.toNat < 128 → isWord c = (c.isAlphanum || c = '_')

def PythonText.ascii : PythonText where
  casefold c := [c.toLower]
  isDigit := Char.isDigit
  isSpace := asciiSpace
  isWord c := c.isAlphanum || c = '_'
  readMapping _ := none
  casefold_ascii _ _ := rfl
  isDigit_ascii _ _ := rfl
  isSpace_ascii _ _ := rfl
  isWord_ascii _ _ := rfl

namespace Redact

def redacted : Text := "[REDACTED]".toList
def maxDepth : Nat := 20
def maxMappingItems : Nat := 500
def maxMappingKeyChars : Nat := 512
def maxSequenceItems : Nat := 1000
def maxStructuredValueChars : Nat := 32768
def maxStructuredValueDepth : Nat := 20
def maxEmbeddedRedactionDepth : Nat := 4

def safeNumericKeys : List Text :=
  ["input_tokens", "max_input_tokens", "max_output_tokens", "max_tokens", "output_tokens",
    "session_count", "token_count", "tokens_per_second"].map String.toList

def safeNumericContainerKeys : List Text := ["token_usage".toList]

/-! ## Patterns -/

/-- Whether a character matches a lower-case ASCII one under `re.IGNORECASE`. -/
def matchesLetter (letter c : Char) : Bool :=
  c = letter || c = letter.toUpper || (letter = 'i' && (c = 'ı' || c = 'İ'))
    || (letter = 's' && c = 'ſ') || (letter = 'k' && c = '\u212a')

def matchesWord : Text → Text → Bool
  | [], _ => true
  | _ :: _, [] => false
  | letter :: word, c :: text => matchesLetter letter c && matchesWord word text

/-- The alternatives of `SECRET_KEY_PATTERN`, with each optional separator spelt out. -/
def secretWords : List Text :=
  ["authorization", "cookie", "token", "secret", "password", "apikey", "api_key", "api-key",
    "privatekey", "private_key", "private-key", "session", "credential", "databaseurl",
    "database_url", "database-url"].map String.toList

/-- `SECRET_KEY_PATTERN.search`. -/
def containsSecretWord (text : Text) : Bool :=
  text.tails.any fun suffix => secretWords.any fun word => matchesWord word suffix

variable (P : PythonText)

/-- `str.strip`. -/
def strip (text : Text) : Text :=
  ((text.dropWhile P.isSpace).reverse.dropWhile P.isSpace).reverse

/-- `\d+`, and what follows it; `none` without a digit. -/
def readDigits (text : Text) : Option Text :=
  if (text.takeWhile P.isDigit).isEmpty then none else some (text.dropWhile P.isDigit)

def dropSign : Text → Text
  | '+' :: text => text
  | '-' :: text => text
  | text => text

/-- `(?:\d+(?:\.\d*)?|\.\d+)`, and what follows it. -/
def readNumber (text : Text) : Option Text :=
  match readDigits P text with
  | some ('.' :: rest) => some (rest.dropWhile P.isDigit)
  | some rest => some rest
  | none =>
    match text with
    | '.' :: rest => readDigits P rest
    | _ => none

/-- `_NUMERIC_TEXT_PATTERN.fullmatch`. -/
def numericText (text : Text) : Bool :=
  match readNumber P (dropSign text) with
  | none => false
  | some [] => true
  | some (e :: rest) => (e = 'e' || e = 'E') && readDigits P (dropSign rest) = some []

/-! ## Keys -/

/-- `_normalized_key`. -/
def normalizedKey (key : Text) : Text :=
  (key.flatMap P.casefold).map fun c => if c = '-' ∨ c = ' ' then '_' else c

/-- `_secret_key`. -/
def secretKey (key : Text) : Bool := containsSecretWord (normalizedKey P key)

/-- `_safe_mapping_key`, of a key that is a text: the name to go by, and whether it is the
key itself. -/
def safeMappingKey (key : String) : String × Bool :=
  if key.toList.length > maxMappingKeyChars then ("[str]", false) else (key, true)

/-- `_safe_numeric_value`, of a JSON value. -/
def safeNumericValue : Json → Bool
  | .int _ => true
  | .float text => text ≠ "inf" && text ≠ "-inf" && text ≠ "nan"
  | .null | .bool _ | .str _ | .arr _ | .obj _ => false

/-- What `_safe_numeric_mapping` asks of one item. -/
def safeNumericItem (item : String × Json) : Bool :=
  let (name, inspectable) := safeMappingKey item.1
  inspectable && safeNumericValue item.2
    && (!secretKey P name.toList || safeNumericKeys.contains (normalizedKey P name.toList))

/-- `_safe_numeric_mapping`. -/
def safeNumericMapping : Json → Bool
  | .obj fields => !fields.isEmpty && fields.all (safeNumericItem P)
  | .null | .bool _ | .int _ | .float _ | .str _ | .arr _ => false

/-- `_safe_serialized_numeric_mapping`. -/
def safeSerializedNumericMapping (value : Text) : Bool :=
  let candidate := strip P value
  candidate.head? = some '{' && candidate.getLast? = some '}'
    && candidate.length ≤ maxStructuredValueChars
    && match P.readMapping candidate with
      | none => false
      | some fields => safeNumericMapping P (.obj fields)

/-- `_safe_secret_value`. -/
def safeSecretValue (key : Text) (value : Json) : Bool :=
  let normalized := normalizedKey P key
  if safeNumericKeys.contains normalized then safeNumericValue value
  else safeNumericContainerKeys.contains normalized && safeNumericMapping P value

/-- `_safe_secret_value`, of a serialized value. -/
def safeSecretText (key value : Text) : Bool :=
  let normalized := normalizedKey P key
  if safeNumericKeys.contains normalized then numericText P (strip P value)
  else safeNumericContainerKeys.contains normalized && safeSerializedNumericMapping P value

/-- `_redact_key_value`. -/
def redactKeyValue (key : Text) (value : Json) : Bool :=
  secretKey P key && !safeSecretValue P key value

/-- `_redact_key_value`, of a serialized value. -/
def redactKeyText (key value : Text) : Bool := secretKey P key && !safeSecretText P key value

end Redact

end NewsCraft
