import AccessHarness.Session.Basic
import AccessHarness.Text.Case

/-!
# Scripted platforms

A platform that answers from a script, for rehearsing a session without a cluster.

* A `ScriptRule` answers the requests it applies to, a number of times or without end.
* A `Script` is a list of rules, the first that applies and is not used up being the one
  that answers; replies for single requests by number; and a reply for everything else.
* A `Link` leads to the platform or is down.

### Rules in use

`Script.respond` is a function of the transcript, as every platform is: which rules are
used up is worked out anew from the requests that were sent before
(`Script.remaining`), and nothing is kept beside the transcript.
-/

namespace AccessHarness

/-- The reply with a status and a body; an answer without content, or about content the
caller has already, has no body. -/
def Reply.ofStatus (status : Nat) (body : String) : Reply :=
  .answered ⟨status, if status = 204 ∨ status = 304 then "" else body⟩

/-- Replies to the requests it applies to. -/
structure ScriptRule where
  /-- The method it answers; any if none is named. -/
  method : Option String
  /-- The URL it answers; a star at the end stands for any ending. -/
  url : Option String
  reply : Reply
  /-- How often it still answers; without end if no number is named. -/
  uses : Option Nat
  deriving DecidableEq, Repr

namespace ScriptRule

/-- Whether a text fits a pattern. -/
def fits (pattern text : List Char) : Bool :=
  if pattern.getLast? = some '*' then Text.startsWith pattern.dropLast text
  else pattern == text

/-- Whether the rule answers a request. -/
def appliesTo (r : ScriptRule) (q : Request) : Bool :=
  (match r.method with
   | some m => m == q.method
   | none => true) &&
  (match r.url with
   | some p => fits p.toList q.url.charsToQuery
   | none => true)

/-- Whether the rule has no use left. -/
def isSpent (r : ScriptRule) : Bool := r.uses == some 0

/-- The rule after one more use. -/
def used (r : ScriptRule) : ScriptRule := { r with uses := r.uses.map (· - 1) }

/-- The reply of the first rule that answers, and the rules after that. -/
def take (q : Request) : List ScriptRule → Option Reply × List ScriptRule
  | [] => (none, [])
  | r :: rest =>
    if !r.isSpent && r.appliesTo q then (some r.reply, r.used :: rest)
    else
      let (reply, rest') := take q rest
      (reply, r :: rest')

end ScriptRule

/-- **What a platform answers**, laid down in advance. -/
structure Script where
  rules : List ScriptRule
  /-- Replies for single requests, by their number from the start. -/
  exceptions : List (Nat × Reply)
  /-- The reply where nothing else answers. -/
  fallback : Reply
  deriving DecidableEq, Repr

namespace Script

/-- What is left of rules after a list of requests, the first of which has number `k`. -/
def remaining (s : Script) (k : Nat) (rules : List ScriptRule) : List Request → List ScriptRule
  | [] => rules
  | q :: rest =>
    match s.exceptions.lookup k with
    | some _ => s.remaining (k + 1) rules rest
    | none => s.remaining (k + 1) (ScriptRule.take q rules).2 rest

/-- The reply to a request after what happened so far. -/
def respond (s : Script) (t : Transcript) (q : Request) : Reply :=
  let sent := t.exchanges.map (·.1)
  match s.exceptions.lookup sent.length with
  | some reply => reply
  | none => (ScriptRule.take q (s.remaining 0 s.rules sent)).1.getD s.fallback

end Script

/-- Whether a platform can be reached. -/
inductive Link where
  | up
  /-- No connection is ever opened. -/
  | down
  deriving DecidableEq, Repr

/-- A platform behind a link. -/
def Link.through (l : Link) (platform : Transcript → Request → Reply) :
    Transcript → Request → Reply :=
  match l with
  | .up => platform
  | .down => fun _ _ => .unreachable

end AccessHarness
