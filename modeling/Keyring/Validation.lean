import Keyring.Settings
import Keyring.Text.Quoted

/-!
# Validation

Checks of the settings before any secret is handled. What must be mended is an error and keeps the
process from starting; a warning is only logged.
-/

namespace Keyring

inductive Severity where
  | error
  | warning
  deriving DecidableEq

namespace Severity

def name : Severity → Text
  | error => "error"
  | warning => "warning"

def mark : Severity → Text
  | error => "ERROR"
  | warning => "WARNING"

def ofDatum? (d : Datum) : Option Severity :=
  [error, warning].find? fun s => Datum.text s.name == d

def unknownMessage (d : Datum) : Text :=
  d.quoted ++ (" is not a valid ValidationSeverity" : Text)

end Severity

structure Finding where
  field : Text
  severity : Severity
  message : Text
  suggestion : Option Text
  deriving DecidableEq

/-- The finding of plain data, or the report of what is no severity. Any data can be shown as text;
what counts as no is no suggestion. -/
def Finding.ofData (field severity message suggestion : Datum) : Except Text Finding :=
  match Severity.ofDatum? severity with
  | some s =>
    .ok ⟨field.shown, s, message.shown,
      if suggestion.isTruthy then some suggestion.shown else none⟩
  | none => .error (Severity.unknownMessage severity)

def Finding.report (f : Finding) : Text :=
  let head : Text := "[" ++ (f.severity.mark ++ ("] " ++ (f.field ++ (": " ++ f.message))))
  match f.suggestion with
  | some s => if s.isEmpty then head else head ++ ("\n  Suggestion: " ++ s)
  | none => head

namespace Settings

/-- Lines of this many digits, or of a multiple, can be read on their own. -/
def chunkWidthUnit : Nat := 4

def missingKey (environment : Deployment) : Finding :=
  if environment = .production then
    ⟨SettingName.encryptionKey.text, .error, "Encryption key is required in production",
      some "Generate with: python -c 'from credcore.core.encryption import generate_key, key_to_string; print(key_to_string(generate_key()))'"⟩
  else
    ⟨SettingName.encryptionKey.text, .warning,
      "Encryption key not configured - secrets cannot be encoded",
      some "Set ENCRYPTION_KEY even in development"⟩

def invalidKey : Finding :=
  ⟨SettingName.encryptionKey.text, .error, "Encryption key is not a base64-encoded 32-byte key",
    some "Regenerate the key with credcore.core.encryption.generate_key"⟩

def checkKey (s : Settings) : List Finding :=
  match s.encryptionKey with
  | none => [missingKey s.environment]
  | some key =>
    match Cipher.Key.ofText key with
    | .ok _ => []
    | .error _ => [invalidKey]

def checkWidth (s : Settings) : List Finding :=
  if s.chunkWidth % chunkWidthUnit = 0 then []
  else
    [⟨SettingName.chunkWidth.text, .error,
      "Chunk width " ++ (Text.ofNat s.chunkWidth ++
        (" is not a multiple of " ++ Text.ofNat chunkWidthUnit)),
      some "Use 76 (MIME) or 64 (PEM)"⟩]

def checkDeployment (s : Settings) : List Finding :=
  if s.environment = .production ∧ s.logLevel = .debug then
    [⟨SettingName.logLevel.text, .warning,
      "DEBUG log level in production may expose query details",
      some "Use INFO or WARNING for production"⟩]
  else []

def findings (s : Settings) : List Finding :=
  s.checkKey ++ (s.checkWidth ++ s.checkDeployment)

def reports (severity : Severity) (all : List Finding) : List Text :=
  (all.filter fun f => f.severity = severity).map Finding.report

def validate (s : Settings) : Except Text (List Text) :=
  if (reports .error s.findings).isEmpty then .ok (reports .warning s.findings)
  else
    .error ("Configuration validation failed:\n" ++ Text.join "\n" (reports .error s.findings))

structure Summary where
  environment : Deployment
  logLevel : Verbosity
  encryptionConfigured : Bool
  chunkWidth : Nat
  deriving DecidableEq

/-- The summary of settings tells whether there is a key and nothing more about it. -/
def summary (s : Settings) : Summary :=
  ⟨s.environment, s.logLevel, s.encryptionKey.isSome, s.chunkWidth⟩

end Settings

end Keyring
