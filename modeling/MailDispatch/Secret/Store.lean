import MailDispatch.Value.Basic

/-!
# Secret stores

A secret store answers a key with a secret, with nothing, or by failing. A store is a table in
memory or the system's keyring, where the secrets of a scope lie under a service name of their own.
Descriptions of a store never show a secret.
-/

namespace MailDispatch

/-- What a secret store answers when it is asked for a key. -/
inductive SecretAnswer where
  | absent
  | present (secret : Value)
  | unavailable (reason : String)

/-- A secret store: what it answers for each key, and the name of the scope that it serves. -/
structure SecretStore where
  scope : String
  answer : String → SecretAnswer

namespace SecretStore

/-- The secrets of a table. An entry without a value is no secret. -/
def ofTable (secrets : Table) : SecretStore where
  scope := "mail"
  answer key := match (secrets.lookup key).bind Value.toOption with
    | some secret => .present secret
    | none => .absent

/-- The service under which the keyring holds the secrets of a scope. -/
def service (scope : String) : String := "mailtask:" ++ scope

/-- The secrets that a keyring holds for a scope. `keyring` answers a service and a key. -/
def ofKeyring (scope : String) (keyring : String → String → SecretAnswer) : SecretStore where
  scope := scope
  answer := keyring (service scope)

/-- The description of a table of secrets: its keys in order, no values. -/
def tableLiteral (secrets : Table) : String :=
  let keys := (secrets.map (·.1)).mergeSort fun a b ↦ a ≤ b
  call "MappingSecretProvider" ["keys=" ++ Value.bracketed "[" "]" (keys.map Text.quoted)]

/-- The description of the keyring for a scope. -/
def keyringLiteral (scope : String) : String :=
  call "KeyringSecretProvider" ["scope=" ++ Text.quoted scope]

end SecretStore

end MailDispatch
