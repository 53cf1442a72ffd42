import RpcReference.Files.Tree
/-!
# Programs that use a console and files

A program is a value: it ends with an exit status, writes to one of the two streams of a console, or
reads or creates a file and goes on with what came of it. The same program runs on a file tree, as a
function, and on a real system.
-/

namespace RpcReference.Command

open Files

/-- A program that uses a console and files. -/
inductive Program where
  | exit (status : Nat)
  | print (text : Text) (next : Program)
  | complain (text : Text) (next : Program)
  | read (path : Text) (next : Except AccessError Text → Program)
  | create (path text : Text) (next : Except AccessError Unit → Program)

/-- What a run leaves behind. -/
structure Outcome where
  status : Nat
  output : Text
  complaints : Text
  tree : Tree

namespace Outcome

def printed (text : Text) (o : Outcome) : Outcome :=
  { o with output := text ++ o.output }

def complained (text : Text) (o : Outcome) : Outcome :=
  { o with complaints := text ++ o.complaints }

end Outcome

def Program.run (t : Tree) : Program → Outcome
  | .exit status => ⟨status, [], [], t⟩
  | .print text next => (next.run t).printed text
  | .complain text next => (next.run t).complained text
  | .read path next => (next (t.read path)).run t
  | .create path text next =>
    match t.create path text with
    | .error cause => (next (.error cause)).run t
    | .ok t => (next (.ok ())).run t

end RpcReference.Command
