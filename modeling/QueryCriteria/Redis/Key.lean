import QueryCriteria.Pattern.Wildcard
import QueryCriteria.Store.Error

/-!
Keys of stored records: the name of the collection, a colon, the identifier. Names of collections
hold no colons, so the keys of two collections are never mixed up.
-/
namespace QueryCriteria.Redis

def backendName : String := "redis"

/-- Whether a collection may have this name. -/
def isCollectionName (name : String) : Bool :=
  name ≠ "" && !name.toList.contains ':'

/-- The key of a record. -/
def recordKey (collection id : String) : Except StoreError String :=
  if isCollectionName collection then .ok (collection ++ ":" ++ id)
  else .error ((StoreError.validation
    ("Collection name '" ++ collection ++ "' must be non-empty and free of ':'")).withBackend backendName)

/-- The glob that matches the keys that begin with a text. -/
def keysFrom (start : String) : String :=
  Pattern.escapeGlob start ++ "*"

end QueryCriteria.Redis
