import CommandBridge.Http.Basic

/-! A network that answers from a script and keeps what it was asked. -/
namespace CommandBridge.Http

structure Script where
  /-- The answers to the next posts; after them come server errors. -/
  posts : List Delivery := []
  /-- The answers to the next deletions; after them all goes well. -/
  deletions : List Delivery := []
  /-- The requests so far, the first one first. -/
  requests : List Request := []

namespace Script

def next (s : Script) : Method → Delivery × Script
  | .post =>
    match s.posts with
    | d :: rest => (d, { s with posts := rest })
    | [] => (.answered ⟨500, ""⟩, s)
  | .delete =>
    match s.deletions with
    | d :: rest => (d, { s with deletions := rest })
    | [] => (.answered ⟨204, ""⟩, s)

def deliver (r : Request) (s : Script) : Script × Delivery :=
  let (d, s) := s.next r.method
  ({ s with requests := s.requests ++ [r] }, d)

def network : Network Script := ⟨deliver⟩

end Script

end CommandBridge.Http
