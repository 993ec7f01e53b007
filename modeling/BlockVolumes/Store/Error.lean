/-!
What can go wrong in a store of volume records.
-/

namespace BlockVolumes

inductive StoreError
  | notFound (id : String)
  | alreadyExists (id : String)
  | serialization (reason : String)
  | database (reason : String)
deriving DecidableEq

def StoreError.kind : StoreError → String
  | .notFound _ => "NotFound"
  | .alreadyExists _ => "AlreadyExists"
  | .serialization _ => "Serialization"
  | .database _ => "Database"

def StoreError.message : StoreError → String
  | .notFound id => "Volume " ++ id ++ " not found"
  | .alreadyExists id => "Volume " ++ id ++ " already exists"
  | .serialization reason => "Serialization error: " ++ reason
  | .database reason => "Database error: " ++ reason

end BlockVolumes
