import SceneEngine.Shading.CompileError
import SceneEngine.Shading.Identifier

/-!
# Socket references

A reference names a node and one of its sockets.  Its path is the node's name, a dot and the
socket's; since a normalized socket has no dot, the last dot of a path separates the two, and the
name of a node may contain dots.

References are the ends of links (`Link`), and a reference to an output with a target is a root
(`Root`).  All of them are normalized when they are read, whatever form they are read from.
-/

namespace SceneEngine.Shading

/-- A socket of a node. -/
structure SocketRef where
  /-- The id of the node, as it was written. -/
  node : String
  /-- The name of the socket. -/
  socket : String
  deriving DecidableEq, Inhabited

/-- A connection from an output to an input. -/
structure Link where
  /-- The output. -/
  source : SocketRef
  /-- The input. -/
  target : SocketRef
  deriving DecidableEq

/-- Splits a text at the last `separator`. -/
def splitAtLast (separator : Char) : List Char → Option (List Char × List Char)
  | [] => none
  | c :: cs =>
    match splitAtLast separator cs with
    | some (front, back) => some (c :: front, back)
    | none => if c = separator then some ([], cs) else none

namespace SocketRef

/-- The reference to a socket under its normalized name. -/
def normalized (node socket : String) : SocketRef := ⟨node, Identifier.socketKey socket⟩

/-- The path of a reference. -/
def path (ref : SocketRef) : String := ref.node ++ "." ++ ref.socket

/-- Reads a path.  Neither the node nor the socket may be missing. -/
def parse? (path : String) : Option SocketRef :=
  match splitAtLast '.' path.toList with
  | none => none
  | some (node, socket) =>
    if node.isEmpty || socket.isEmpty then none
    else some (normalized (String.ofList node) (String.ofList socket))

end SocketRef

/-- An output of the tree that is asked for as an output of the program. -/
structure Root where
  /-- What the output drives. -/
  target : Target
  /-- The output. -/
  socket : SocketRef
  deriving DecidableEq

/-- A root given by the path of its socket. -/
def Root.parse (target : Target) (path : String) : Except CompileError Root :=
  match SocketRef.parse? path with
  | some socket => .ok ⟨target, socket⟩
  | none => .error (.malformedTree (.rootPath path))

end SceneEngine.Shading
