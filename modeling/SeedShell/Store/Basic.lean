import SeedShell.Json.Printer
import SeedShell.Json.Reader

/-!
# Stores

A store keeps texts under keys. A write may be refused; what a refused write leaves behind is up
to the store. Lists of texts are kept in JSON.
-/

namespace SeedShell

/-- Why a write was refused. -/
inductive StoreError where
  /-- The file behind the store could not be written. -/
  | unwritable
  | readOnly
  /-- The page refused to keep a value. -/
  | notKept (key : String)
  /-- The page refused to delete a value. -/
  | notDeleted (key : String)
  deriving DecidableEq, Repr

def StoreError.message : StoreError → String
  | .unwritable => "cannot write the state file"
  | .readOnly => "storage error: read-only store"
  | .notKept key => rejection "write of" key
  | .notDeleted key => rejection "delete of" key
where
  rejection (action key : String) : String :=
    "storage error: localStorage " ++ action ++ " '" ++ key ++ "' failed: " ++
      "JsValue(\"QuotaExceededError\")"

class KeyValueStore (σ : Type) where
  get? : σ → String → Option String
  /-- Puts a text under a key. -/
  insert : σ → String → String → Except StoreError Unit × σ
  /-- Removes a key. -/
  erase : σ → String → Except StoreError Unit × σ

namespace KeyValueStore

variable {σ : Type} [KeyValueStore σ]

/-- The list of texts that a value stands for. -/
def decodeTexts? (value : String) : Option (List String) := (Json.parse? value).bind Json.strings?

/-- The list of texts under a key, none if there is no list. -/
def texts? (store : σ) (key : String) : Option (List String) := (get? store key).bind decodeTexts?

/-- Puts a list of texts under a key. -/
def insertTexts (store : σ) (key : String) (texts : List String) : Except StoreError Unit × σ :=
  insert store key (Json.ofStrings texts)

end KeyValueStore

end SeedShell
