import PlannerConfig.Text.Blank

/-!
Ids that are qualified by the feed they belong to, written `feed:id`.
-/
namespace PlannerConfig

open PlannerConfig.Text

structure FeedScopedId where
  feed : String
  id : String
  feed_ne : feed ≠ ""
  id_ne : id ≠ ""
  deriving DecidableEq

namespace FeedScopedId

/-- Why a text or a pair of texts is no feed scoped id. -/
inductive Error
  | noSeparator (text : String)
  | emptyFeed
  | emptyId
  deriving DecidableEq, Repr

def Error.message : Error → String
  | noSeparator text => "'" ++ text ++ "' is not a feed scoped id, expected 'FeedId:Id'"
  | emptyFeed => "feed_id must not be empty"
  | emptyId => "id must not be empty"

def ofParts (feed id : String) : Except Error FeedScopedId :=
  if hf : feed = "" then throw .emptyFeed
  else if hi : id = "" then throw .emptyId
  else return ⟨feed, id, hf, hi⟩

/-- The feed stands before the first colon. -/
def parse (s : String) : Except Error FeedScopedId :=
  let cs := trimChars s.toList
  match cs.dropWhile (· != ':') with
  | [] => throw (.noSeparator s)
  | _ :: id => ofParts (String.ofList (cs.takeWhile (· != ':'))) (String.ofList id)

def text (x : FeedScopedId) : String := x.feed ++ ":" ++ x.id

end FeedScopedId

end PlannerConfig
