/-!
# Identifiers

Authored names may hold any character; the identifiers of a shader may not.  A name is reduced to
its runs of letters and digits, and a pool of names keeps the identifiers of one compile apart from
each other and from the words of the shading language.

## Reducing names

`Identifier.sanitize` keeps runs of letters and digits and puts a single underscore between them;
nothing is left of a name without any.  Letters beyond ASCII separate runs like any other character.
`Identifier.socketKey` also makes letters small, and is the form in which sockets are compared.

## Giving out names

The base of an identifier is made from parts, which say what it is for: a word for its kind, then
the id of a node or the path of an image.  A pool gives out the base if it is free, and otherwise
the base with a number (`NamePool.firstFree`).  A name is not free if it was given out before or is
reserved: keywords, names with two underscores in a row, and names that start like those the
language defines itself.
-/

namespace SceneEngine.Shading

namespace Identifier

/-- Whether a character may stand in an identifier: an ASCII letter or digit. -/
def isWordChar (c : Char) : Bool :=
  ('a' ≤ c && c ≤ 'z') || ('A' ≤ c && c ≤ 'Z') || ('0' ≤ c && c ≤ '9')

/-- Writes the word characters of a text and a single underscore for every gap between them.
`started` says that something has been written, `gap` that an underscore is owed once another
word character comes. -/
def joinRuns (started gap : Bool) : List Char → List Char
  | [] => []
  | c :: cs =>
    if isWordChar c then
      if started && gap then '_' :: c :: joinRuns true false cs else c :: joinRuns true false cs
    else joinRuns started true cs

/-- Reduces an authored name to its runs of letters and digits, joined by underscores. -/
def sanitize (name : String) : String := String.ofList (joinRuns false false name.toList)

/-- The normal form of a socket's name: sanitized and in lower case. -/
def socketKey (name : String) : String :=
  String.ofList ((joinRuns false false name.toList).map Char.toLower)

/-- Keywords and reserved words of the shading language that an authored name could produce. -/
def keywords : List String :=
  ["attribute", "bool", "break", "bvec2", "bvec3", "bvec4", "case", "centroid", "const",
   "continue", "default", "discard", "do", "else", "false", "flat", "float", "for", "highp",
   "if", "in", "inout", "int", "invariant", "isampler2D", "ivec2", "ivec3", "ivec4", "layout",
   "lowp", "mat2", "mat3", "mat4", "mediump", "out", "precision", "return", "sampler2D",
   "sampler3D", "samplerCube", "smooth", "struct", "switch", "true", "uint", "uniform",
   "uvec2", "uvec3", "uvec4", "varying", "vec2", "vec3", "vec4", "void", "while", "asm",
   "class", "union", "enum", "typedef", "template", "this", "goto", "inline", "noinline",
   "volatile", "public", "static", "extern", "external", "interface", "long", "short",
   "double", "half", "fixed", "unsigned", "input", "output", "sizeof", "cast", "namespace",
   "using", "main"]

/-- Whether two underscores follow each other. -/
def hasDoubleUnderscore : List Char → Bool
  | [] => false
  | c :: cs => (c == '_' && cs.head? == some '_') || hasDoubleUnderscore cs

/-- Whether a text starts like the names the language keeps for itself. -/
def hasLanguageStart (cs : List Char) : Bool := ['g', 'l', '_'].isPrefixOf cs

/-- Whether a name cannot be used as an identifier. -/
def isReserved (name : String) : Bool :=
  hasLanguageStart name.toList || hasDoubleUnderscore name.toList || keywords.contains name

/-- The identifier that parts of an authored name ask for: the sanitized parts joined by
underscores, with a letter in front where an identifier could not start otherwise. -/
def base (parts : List String) : String :=
  let name := "_".intercalate ((parts.map sanitize).filter (!·.isEmpty))
  let usable := match name.toList with
    | [] => false
    | c :: cs => !('0' ≤ c && c ≤ '9') && !hasLanguageStart (c :: cs)
  if usable then name else "v_" ++ name

end Identifier

/-- The identifiers in use within one compile. -/
structure NamePool where
  /-- The identifiers that have been given out, latest first. -/
  used : List String

namespace NamePool

open Identifier

/-- The pool without names. -/
def empty : NamePool := ⟨[]⟩

instance : Inhabited NamePool := ⟨empty⟩

/-- Whether a name can still be given out. -/
def isFree (pool : NamePool) (name : String) : Bool :=
  !isReserved name && !pool.used.contains name

/-- The first free name among the base and the base with a number from two on.  As many numbers
as there are names in use, and one more, always leave a free one, unless the numbered names
themselves are reserved. -/
def firstFree (pool : NamePool) (base : String) : String :=
  if pool.isFree base then base
  else
    let numbered (n : Nat) : String := base ++ "_" ++ toString n
    let attempt (n : Nat) : Option String :=
      if pool.isFree (numbered n) then some (numbered n) else none
    -- the base itself is given out only where no numbered name could be free
    ((List.range' 2 (pool.used.length + 1)).findSome? attempt).getD base

/-- Gives out an identifier made from parts of an authored name. -/
def allocate (pool : NamePool) (parts : List String) : String × NamePool :=
  let name := pool.firstFree (base parts)
  (name, ⟨name :: pool.used⟩)

end NamePool

end SceneEngine.Shading
