import BlockVolumes.Http.Message

/-!
Requests and replies as they are sent, one to a connection.
-/

namespace BlockVolumes.Http

def lineEnd : List UInt8 := [13, 10]

def Request.bytes (r : Request) (host : String) : List UInt8 :=
  let query := if r.uri.query = [] then [] else Uri.question :: r.uri.query
  let header (name value : String) : List UInt8 := (name ++ ": " ++ value).toUTF8.toList ++ lineEnd
  r.method.toUTF8.toList ++ [32] ++ r.uri.path ++ query ++ " HTTP/1.0".toUTF8.toList ++ lineEnd ++
    header "host" host ++ header "content-type" "application/json" ++
    header "content-length" (toString r.body.length) ++ lineEnd ++ r.body

def afterHeaders : List UInt8 → List UInt8
  | 13 :: 10 :: 13 :: 10 :: rest => rest
  | _ :: rest => afterHeaders rest
  | [] => []

def statusOf (bytes : List UInt8) : Nat :=
  let digits := ((bytes.dropWhile (· ≠ 32)).drop 1).takeWhile fun b => 48 ≤ b && b ≤ 57
  digits.foldl (fun n b => 10 * n + (b.toNat - 48)) 0

def Reply.ofBytes (bytes : List UInt8) : Reply :=
  .text (statusOf bytes) (Text.decodeMended (afterHeaders bytes))

end BlockVolumes.Http
