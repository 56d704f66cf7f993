import ScreenPattern.Ascending
import ScreenPattern.Catalog.Source

/-!
The registry: contracts looked up by key, each loaded and checked once and then kept. Every
operation gives the registry after it beside its answer.
-/

namespace ScreenPattern

inductive RegistryError
  | contractNotFound (key : ContractKey)
  | contractInvalid (key : ContractKey) (issues : List Issue)
  | catalog (error : CatalogError)
  deriving Repr, DecidableEq

def RegistryError.message : RegistryError → String
  | contractNotFound key =>
      "no contract for " ++ toString key.family ++ " variant " ++ toString key.variant
  | contractInvalid key issues =>
      "contract " ++ toString key ++ " is invalid: " ++ Issue.summary issues
  | catalog error => error.message

structure Registry where
  source : CatalogSource
  /-- The contracts loaded so far, the latest first. -/
  cache : List (ContractKey × Contract) := []
  loadsSucceeded : Nat := 0
  loadsFailed : Nat := 0
  cacheHits : Nat := 0

namespace Registry

def cached? (registry : Registry) (key : ContractKey) : Option Contract :=
  (registry.cache.find? fun e => e.1 == key).map (·.2)

def contains (registry : Registry) (key : ContractKey) : Bool :=
  (registry.cached? key).isSome

def cachedKeys (registry : Registry) : List ContractKey :=
  ascending (fun a b => a ≤ b) (registry.cache.map (·.1))

end Registry

namespace CatalogSource

/-- The contract that the source's literal at `key` loads to. The literal must declare that key. -/
def load (source : CatalogSource) (key : ContractKey) : Except RegistryError Contract :=
  match source.entry key with
  | .error error => .error (.catalog error)
  | .ok none => .error (.contractNotFound key)
  | .ok (some literal) =>
      match Contract.load literal with
      | .error issues => .error (.contractInvalid key issues)
      | .ok contract =>
          if contract.key = key then .ok contract
          else .error (.contractInvalid key [Contract.Failure.fieldInvalid.at "family"
            ("catalog entry for " ++ toString key ++ " declares " ++ toString contract.key)])

end CatalogSource

namespace Registry

/-- The contract at `key`, from the cache or else from the source. -/
def get (registry : Registry) (key : ContractKey) : Except RegistryError Contract × Registry :=
  match registry.cached? key with
  | some contract => (.ok contract, { registry with cacheHits := registry.cacheHits + 1 })
  | none =>
      match registry.source.load key with
      | .ok contract =>
          (.ok contract, { registry with
            cache := (key, contract) :: registry.cache
            loadsSucceeded := registry.loadsSucceeded + 1 })
      | .error error => (.error error, { registry with loadsFailed := registry.loadsFailed + 1 })

/-- Gets the contracts at several keys in turn, up to the first that fails. -/
def getAll (registry : Registry) :
    List ContractKey → Except RegistryError (List Contract) × Registry
  | [] => (.ok [], registry)
  | key :: rest =>
      match registry.get key with
      | (.error error, after) => (.error error, after)
      | (.ok contract, after) =>
          let (answer, final) := getAll after rest
          (answer.map (contract :: ·), final)

/-- Loads every key that the source lists, and counts them. -/
def preload (registry : Registry) : Except RegistryError Nat × Registry :=
  let (answer, after) := registry.getAll registry.source.keys
  (answer.map fun _ => registry.source.keys.length, after)

def description (registry : Registry) : String :=
  "PatternRegistry \x7b source: " ++ Text.quote registry.source.name ++ ", cached: "
    ++ toString registry.cachedKeys.length ++ " \x7d"

end Registry

end ScreenPattern
