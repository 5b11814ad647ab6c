import ColumnStore.Client.Connection
import ColumnStore.Options

/-!
# Configurations

A `Configuration` is a managed object that holds settings. Every entry that is set is read back and
reported; the value of a secret is not.
-/

set_option autoImplicit false

namespace ColumnStore

/-- A managed object that holds settings. -/
structure Configuration where
  handle : Handle
  deriving DecidableEq

/-- Keys whose values are not reported. -/
def isSecret (key : String) : Bool :=
  let lower := Text.lowerAscii key
  Text.contains "secret" lower || Text.contains "password" lower
    || Text.finishesWith "access.key" lower

namespace Configuration

variable {σ : Type}

/-- Makes a configuration. -/
def create : Client σ Configuration := do
  let handle ← Client.expect "new Configuration" .other (← Client.construct .newConfiguration [])
  pure ⟨handle⟩

/-- The value of a key. -/
def get (configuration : Configuration) (key : String) : Client σ (Option String) := do
  let returned ← Client.call configuration.handle .getEntry [.text key]
  Client.expect ("Configuration.get(" ++ key ++ ")") .other
    (returned.bind (Returned.toText Operation.getEntry.method))

/-- How a value is reported. -/
def reported (key : String) : Option String → String
  | some value => if isSecret key then "******" else value
  | none => "<unset>"

/-- Sets a key, reads it back and reports it. -/
def set (configuration : Configuration) (key value : String) : Client σ Unit := do
  let returned ← Client.call configuration.handle .setEntry [.text key, .text value]
  Client.expect ("Configuration.set(" ++ key ++ ")") .other
    (returned.bind (Returned.toNothing Operation.setEntry.method))
  let stored ← configuration.get key
  Client.report
    ⟨.info, "configuration entry set", [("key", key), ("value", reported key stored)]⟩

/-- Gives a configuration up. -/
def drop (configuration : Configuration) : Client σ Unit :=
  Client.discard configuration.handle

/-- Makes a configuration with the given options. -/
def ofOptions (options : Options) : Client σ Configuration := do
  let configuration ← create
  Client.cleaning configuration.drop
    (options.entries.forM fun entry ↦ configuration.set entry.1 entry.2)
  pure configuration

end Configuration

end ColumnStore
