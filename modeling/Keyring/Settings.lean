import Keyring.Cipher.Key
import Keyring.Datum

/-!
# Settings

What a process is told about its deployment, by values given in code and by its environment. A value
wins over the environment, and the case of names does not matter. Every field is checked, and all
that is wrong is reported at once.
-/

namespace Keyring

abbrev Environment := List (Text × Text)

namespace Environment

def set : Environment → Text → Text → Environment
  | [], name, value => [(name, value)]
  | entry :: rest, name, value =>
    if entry.1 = name then (name, value) :: rest else entry :: set rest name value

inductive Refusal where
  /-- The name or the value has no bytes. -/
  | unencodable
  | notText (kind : Text)
  /-- The name or the value has a null in it. -/
  | embeddedNull
  /-- The name has an equals sign in it. -/
  | illegalName
  | emptyName
  deriving DecidableEq

def Refusal.message : Refusal → Text
  | unencodable => []
  | notText kind => "str expected, not " ++ kind
  | embeddedNull => "embedded null byte"
  | illegalName => "illegal environment variable name"
  | emptyName => "[Errno 22] Invalid argument"

def refusal? (name value : Text) : Option Refusal :=
  let hasNull (t : Text) : Bool := t.any fun c => c.val == 0
  if name.escapedUtf8?.isNone || value.escapedUtf8?.isNone then some .unencodable
  else if hasNull name || hasNull value then some .embeddedNull
  else if List.contains name (CodePoint.ofChar '=') then some .illegalName
  else if name.isEmpty then some .emptyName
  else none

/-- A text as it comes back from an environment, which holds bytes: escapes that spell out a code
point have become that code point. -/
def kept (t : Text) : Text :=
  ((t.escapedUtf8?).map Bytes.toEscapedText).getD t

/-- The environment with a variable changed: set to a text, or taken away. -/
def change (environment : Environment) (name : Text) : Datum → Except Refusal Environment
  | .null => .ok (environment.filter fun entry => entry.1 != kept name)
  | .text value =>
    match refusal? name value with
    | some refusal => .error refusal
    | none => .ok (environment.set (kept name) (kept value))
  | other =>
    .error (if name.escapedUtf8?.isNone then .unencodable else .notText other.kindName)

/-- The value of a variable by its name in any case; of several the last counts. -/
def get? (environment : Environment) (name : Text) : Option Text :=
  (environment.reverse.find? fun entry => entry.1.toLower == name.toLower).map (·.2)

end Environment

inductive Deployment where
  | development
  | test
  | staging
  | production
  deriving DecidableEq

namespace Deployment

def all : List Deployment := [development, test, staging, production]

def name : Deployment → Text
  | development => "development"
  | test => "test"
  | staging => "staging"
  | production => "production"

end Deployment

inductive Verbosity where
  | debug
  | info
  | warning
  | error
  | critical
  deriving DecidableEq

namespace Verbosity

def all : List Verbosity := [debug, info, warning, error, critical]

def name : Verbosity → Text
  | debug => "DEBUG"
  | info => "INFO"
  | warning => "WARNING"
  | error => "ERROR"
  | critical => "CRITICAL"

end Verbosity

inductive SettingName where
  | environment
  | logLevel
  | encryptionKey
  | chunkWidth
  deriving DecidableEq

def SettingName.text : SettingName → Text
  | environment => "ENVIRONMENT"
  | logLevel => "log_level"
  | encryptionKey => "ENCRYPTION_KEY"
  | chunkWidth => "secret_chunk_width"

inductive SettingFault where
  | notAllowed
  | notText
  | notUnicode
  | notInteger
  | notNumeral
  | notWhole
  | notFinite
  | tooLarge
  | notPositive
  deriving DecidableEq

def SettingFault.name : SettingFault → Text
  | notAllowed => "literal_error"
  | notText => "string_type"
  | notUnicode => "string_unicode"
  | notInteger => "int_type"
  | notNumeral => "int_parsing"
  | notWhole => "int_from_float"
  | notFinite => "finite_number"
  | tooLarge => "int_parsing_size"
  | notPositive => "greater_than"

structure Settings where
  environment : Deployment
  logLevel : Verbosity
  /-- Base64 of the master key, if there is one. -/
  encryptionKey : Option Text
  /-- Where encoded text is broken into lines. -/
  chunkWidth : Nat
  chunkWidth_pos : 0 < chunkWidth
  deriving DecidableEq

namespace Settings

def choose {α : Type} (choices : List α) (name : α → Text) : Datum → Except SettingFault α
  | .text value =>
    if value.any CodePoint.isSurrogate then .error .notUnicode
    else
      match choices.find? fun choice => name choice == value with
      | some choice => .ok choice
      | none => .error .notAllowed
  | _ => .error .notAllowed

def readKey : Datum → Except SettingFault (Option Text)
  | .text value => .ok (some value)
  | .null => .ok none
  | _ => .error .notText

/-- What follows the zeros at the start of a text and the underscores among them: the numeral from
its first other digit, its minus sign or the zero before its point. A text that starts with neither
a digit nor a minus sign is no numeral. -/
def dropLeadingZeros : Text → Option Text
  | [] => none
  | c :: rest =>
    if c = '0' then afterZero c rest
    else if c.isDigit || c = '-' then some (c :: rest)
    else none
where
  /-- The same after a zero or underscore `last`. -/
  afterZero (last : CodePoint) : Text → Option Text
    | [] => some [last]
    | c :: rest =>
      if c = '0' || c = '_' then afterZero c rest
      else if c.isDigit || c = '-' then some (c :: rest)
      else if c = '.' then some (last :: c :: rest)
      else none

def dropZeroFraction (t : Text) : Text :=
  let whole := t.takeWhile (· != CodePoint.ofChar '.')
  let fraction := t.drop (whole.length + 1)
  if !fraction.isEmpty && fraction.all (· == CodePoint.ofChar '0') then whole else t

def dropUnderscores (t : Text) : Option Text :=
  let underscore := CodePoint.ofChar '_'
  if t.head? == some underscore || t.getLast? == some underscore || t.contains "__" then none
  else some (t.filter (· != underscore))

def longestNumeral : Nat := 4300

def numeralLength (t : Text) : Nat :=
  let sign := if t.head? == some (CodePoint.ofChar '-') then 1 else 0
  let digits := (t.drop sign).takeWhile CodePoint.isDigit
  if digits.isEmpty then 0
  else if digits.head? == some (CodePoint.ofChar '0') then sign + 1
  else sign + digits.length

def readNumeral (t : Text) : Option Int :=
  let length := numeralLength t
  if length = 0 || length != t.length || longestNumeral < length then none
  else
    let magnitude : Int := Text.toNat (t.filter CodePoint.isDigit)
    some (if t.head? == some (CodePoint.ofChar '-') then -magnitude else magnitude)

def dropPlus (t : Text) : Option Text :=
  match t with
  | [] => none
  | c :: rest =>
    if c != CodePoint.ofChar '+' then some t
    else if rest.head? == some (CodePoint.ofChar '-') then none
    else some rest

/-- The numeral that a text stands for. White space around it, a plus sign, zeros before it, a
fraction of zeros and single underscores do not matter. -/
def plainNumeral (t : Text) : Option Text := do
  let unsigned ← dropPlus (Text.trimWhile CodePoint.isUnicodeSpace t)
  let numeral ←
    match unsigned with
    | [] => none
    | c :: rest =>
      if c = '-' then (dropLeadingZeros rest).map (c :: ·) else dropLeadingZeros unsigned
  dropUnderscores (dropZeroFraction numeral)

/-- The integer of a text. One that begins with too long a numeral is not looked at any further. -/
def readInteger (t : Text) : Except SettingFault Int :=
  if longestNumeral < numeralLength t then .error .tooLarge
  else
    match (plainNumeral t).bind readNumeral with
    | some n => .ok n
    | none => .error .notNumeral

def wholeNumber : Binary64 → Except SettingFault Int
  | .finite x =>
    if x.units % Binary64.unitsPerOne ≠ 0 then .error .notWhole
    else if 0x8000000000000000 ≤ x.truncate.natAbs then .error .tooLarge
    else .ok x.truncate
  | _ => .error .notFinite

def readNumber : Datum → Except SettingFault Int
  | .text value =>
    if value.any CodePoint.isSurrogate then .error .notUnicode else readInteger value
  | .number value => wholeNumber value
  | given =>
    match given.integer? with
    | some n => .ok n
    | none => .error .notInteger

def readWidth (given : Datum) : Except SettingFault { width : Nat // 0 < width } :=
  match readNumber given with
  | .error fault => .error fault
  | .ok n => if h : 0 < n.toNat then .ok ⟨n.toNat, h⟩ else .error .notPositive

/-- The value given for a field: the first of its name in any case, or else that of the
environment. -/
def given? (environment : Environment) (values : List (Text × Datum)) (field : SettingName) :
    Option Datum :=
  match values.find? fun entry => entry.1.toLower == field.text.toLower with
  | some entry => some entry.2
  | none => (environment.get? field.text).map .text

/-- The reading of a value if one is given, and otherwise the standard. -/
def orStandard {α : Type} (standard : α) (read : Datum → Except SettingFault α) :
    Option Datum → Except SettingFault α
  | some given => read given
  | none => .ok standard

def faultOf {α : Type} (field : SettingName) :
    Except SettingFault α → List (SettingName × SettingFault)
  | .ok _ => []
  | .error fault => [(field, fault)]

/-- The settings of values and an environment, or all that is wrong with them in the order of the
fields. -/
def load (environment : Environment) (values : List (Text × Datum)) :
    Except (List (SettingName × SettingFault)) Settings :=
  let given := given? environment values
  let deployment :=
    orStandard Deployment.development (choose Deployment.all Deployment.name) (given .environment)
  let verbosity :=
    orStandard Verbosity.info (choose Verbosity.all Verbosity.name) (given .logLevel)
  let key := orStandard none readKey (given .encryptionKey)
  let width := orStandard ⟨76, by decide⟩ readWidth (given .chunkWidth)
  match deployment, verbosity, key, width with
  | .ok environment, .ok logLevel, .ok encryptionKey, .ok width =>
    .ok ⟨environment, logLevel, encryptionKey, width.1, width.2⟩
  | _, _, _, _ =>
    .error (faultOf .environment deployment ++ (faultOf .logLevel verbosity ++
      (faultOf .encryptionKey key ++ faultOf .chunkWidth width)))

def maskedKey (s : Settings) : Option Text :=
  s.encryptionKey.map fun key => if key.isEmpty then [] else "**********"

end Settings

end Keyring
