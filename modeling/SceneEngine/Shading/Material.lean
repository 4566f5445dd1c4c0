import SceneEngine.Shading.Compiler

/-!
# Materials

A node tree compiled under the name of a material, ready for the renderer.  The compiled tree is
kept as it is, and the texts of its programs are written when they are asked for; only the program
that writes depth is written when the material is made, if it is wanted.

The parameters of a draw are always computed from the defaults of the program.  What one frame wrote
is not there in the next, and does not need to be: every hook writes all its parameters in every
frame.
-/

namespace SceneEngine.Shading

/-- A compiled material. -/
structure Material where
  /-- The name, which several entities may carry. -/
  name : String
  /-- The compiled tree. -/
  shader : CompiledShader
  /-- The program that only writes depth, if one was asked for. -/
  depth? : Option ShaderSources

namespace Material

/-- Compiles the tree of a material, with roots read from its material output. -/
def compile (compiler : ShaderCompiler) (name : String) (tree : Json) (withDepth : Bool) :
    Except CompileError Material := do
  let shader ← compiler.compileJson tree
  return { name, shader, depth? := if withDepth then some shader.depthVariant else none }

/-- The parameters for one draw: the defaults, refreshed by every hook. -/
def uniforms (material : Material) (frame : FrameInfo) : UniformTable :=
  let declarations := material.shader.base.declarations
  declarations.applyHooks declarations.uniforms frame

end Material

end SceneEngine.Shading
