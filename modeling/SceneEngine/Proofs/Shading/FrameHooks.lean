import SceneEngine.Proofs.Shading.ProgramText
import SceneEngine.Proofs.Shading.Stock

/-!
# Hooks and the parameters they refresh

Some parameters of a program are about the frame that is drawn: what time it is, from where the
scene is seen, and which object is drawn.  A node that reads one of them declares it with a default
and asks for a hook, which is to write the values of each frame.

## Three tables

The parameters, the hooks and what a hook writes are three tables, each filled on its own: a node
declares parameters and asks for a hook, in two separate steps and in either stage, and what the
hook writes is said a third time where it runs.  They fit together: a hook writes just the
parameters that it is declared with, under their types (`RenderHook.entries_writes`), no two hooks
write one parameter (`RenderHook.disjoint_parameters`), and in a compile every hook finds its
parameters and every parameter of a frame its hook (`Stock.Orderly`).

## What parameters hold

What the parameters of a frame are, and what they should hold in it, is said without the hooks
(`FrameInfo.valueOf?`).  A frame changes the values of a table and nothing else, and afterwards
every parameter about the time, the camera or the object holds what the frame says, so that none is
left at its default; every other parameter is an image and stays as it is.  This is
`Declarations.Refreshes`.

## Hooks of a compile

The hooks of a compile are those that its evaluated nodes ask for, each by its type
(`RenderHook.askedBy`): one type asks for the time, one for the camera and one for the object,
whichever of their outputs are read.  The main result, `ShaderCompiler.compile_refreshes`, says this
together with what the hooks do in a frame.
-/

namespace SceneEngine.Shading

open Identifier

variable {hook hook' : RenderHook} {frame : FrameInfo} {table : UniformTable} {x : String}
  {value : UniformValue} {writes : List (String × UniformValue)}

/-! ## What a frame says -/

/-- What a frame says about a parameter of this name: nothing, unless the parameter is about the
time, the camera or the object.  The names and values are written out here, and not read off the
hooks, so that they say what the hooks should write. -/
def FrameInfo.valueOf? (frame : FrameInfo) : String → Option UniformValue
  | "uTime" => some (.float frame.time.toFloat32)
  | "uFrame" => some (.float frame.frame.toFloat32)
  | "uCameraPosition" => some (.vec3 frame.cameraPosition)
  | "uCameraDirection" => some (.vec3 frame.cameraDirection)
  | "uObjectLocation" => some (.vec3 frame.objectLocation)
  | _ => none

/-- The frame speaks only about parameters that hooks refresh. -/
lemma mem_frameParameters_of_valueOf? (h : frame.valueOf? x = some value) :
    x ∈ frameParameters := by
  unfold FrameInfo.valueOf? at h
  split at h
  case h_6 => cases h
  all_goals decide

/-! ## What hooks write -/

/-- The names of the parameters that a hook refreshes. -/
def RenderHook.parameters (hook : RenderHook) : List String := hook.defaults.map Prod.fst

namespace RenderHook

/-- A hook writes the parameters that it is declared with, under their types. -/
lemma entries_writes (hook : RenderHook) (frame : FrameInfo) :
    parameterEntries (hook.writes frame) = parameterEntries hook.defaults := by
  cases hook <;> rfl

/-- The names that a hook writes are those of its parameters. -/
lemma map_fst_writes (hook : RenderHook) (frame : FrameInfo) :
    (hook.writes frame).map Prod.fst = hook.parameters := by
  cases hook <;> rfl

/-- What a hook writes is what the frame says. -/
lemma valueOf?_of_mem_writes (h : (x, value) ∈ hook.writes frame) :
    frame.valueOf? x = some value := by
  have hall : ∀ entry ∈ hook.writes frame, frame.valueOf? entry.1 = some entry.2 := by
    cases hook <;> simp [writes, FrameInfo.valueOf?, timeUniform, frameUniform,
      cameraPositionUniform, cameraDirectionUniform, objectLocationUniform]
  exact hall _ h

/-- A hook refreshes no parameter twice. -/
lemma nodup_parameters (hook : RenderHook) : hook.parameters.Nodup := by
  cases hook <;> decide

/-- No two hooks refresh one parameter. -/
lemma disjoint_parameters (h : hook ≠ hook') : hook.parameters.Disjoint hook'.parameters := by
  have hall : ∀ hook ∈ all, ∀ hook' ∈ all, hook ≠ hook' →
      ∀ x ∈ hook.parameters, x ∉ hook'.parameters := by
    decide
  exact fun x hx hx' => hall hook hook.mem_all hook' hook'.mem_all h x hx hx'

end RenderHook

/-- What the hooks of a program write, one after another. -/
def Declarations.frameWrites (declarations : Declarations) (frame : FrameInfo) :
    List (String × UniformValue) :=
  declarations.hooks.toList.flatMap fun hook => hook.writes frame

namespace Declarations

variable {declarations : Declarations}

/-- Running the hooks comes to writing everything they write, one entry after another. -/
lemma applyHooks_eq (declarations : Declarations) (table : UniformTable) (frame : FrameInfo) :
    declarations.applyHooks table frame =
      (declarations.frameWrites frame).foldl (fun table entry => table.insert entry.1 entry.2)
        table := by
  rw [frameWrites, List.foldl_flatMap]
  rfl

/-- No parameter is written twice. -/
lemma nodup_frameWrites (declarations : Declarations) (frame : FrameInfo) :
    ((declarations.frameWrites frame).map Prod.fst).Nodup := by
  rw [frameWrites, List.map_flatMap]
  simp only [RenderHook.map_fst_writes]
  refine List.nodup_flatMap.mpr ⟨fun hook _ => hook.nodup_parameters, ?_⟩
  exact declarations.hooks.nodup.imp fun hne => RenderHook.disjoint_parameters hne

end Declarations

/-! ## Refreshing a table -/

/-- Writing a parameter under its type changes neither names nor types, nor their order. -/
lemma parameterEntries_insert (h : (value.glsl, x) ∈ parameterEntries table.entries) :
    parameterEntries (table.insert x value).entries = parameterEntries table.entries := by
  obtain ⟨declared, hdeclared, heq⟩ := List.mem_map.mp h
  obtain ⟨htype, hname⟩ := Prod.mk.inj heq
  have hkey : x ∈ table.keys := hname ▸ List.mem_map_of_mem hdeclared
  rw [OrderedMap.insert, dif_pos hkey]
  simp only [parameterEntries, OrderedMap.modify, OrderedMap.mapValues, List.map_map]
  refine List.map_congr_left fun entry hentry => ?_
  rw [Function.comp_apply]
  split
  next hx =>
    have hsame : entry = declared :=
      List.inj_on_of_nodup_map table.nodup hentry hdeclared (hx.trans hname.symm)
    rw [hsame, htype]
  next => rfl

/-- So do several writes, if each is of a parameter under its type. -/
lemma parameterEntries_foldl
    (h : ∀ entry ∈ parameterEntries writes, entry ∈ parameterEntries table.entries) :
    parameterEntries
        (writes.foldl (fun table entry => table.insert entry.1 entry.2) table).entries =
      parameterEntries table.entries := by
  induction writes generalizing table with
  | nil => rfl
  | cons entry writes ih =>
    obtain ⟨hfirst, hrest⟩ := List.forall_mem_cons.mp h
    have hinsert := parameterEntries_insert hfirst
    rw [List.foldl_cons, ih (hinsert ▸ hrest), hinsert]

/-- Refreshing the parameters for a frame changes their values only.  Afterwards each of them that
the frame says something about, because it is about the time, the camera or the object, holds what
the frame says, by a hook of the program; the others are images and hold what they held. -/
structure Declarations.Refreshes (declarations : Declarations) (frame : FrameInfo) : Prop where
  /-- Names and types stay, in their order. -/
  entries : parameterEntries (declarations.applyHooks declarations.uniforms frame).entries =
    parameterEntries declarations.uniforms.entries
  /-- No hook runs twice. -/
  nodup : declarations.hooks.toList.Nodup
  /-- Every parameter of a frame has a hook, and holds what the frame says. -/
  owned : ∀ x ∈ declarations.uniforms.keys, ∀ value, frame.valueOf? x = some value →
    (∃ hook ∈ declarations.hooks, (x, value) ∈ hook.writes frame) ∧
      (declarations.applyHooks declarations.uniforms frame).get? x = some value
  /-- Every other parameter is an image, and stays. -/
  images : ∀ x value, declarations.uniforms.get? x = some value → frame.valueOf? x = none →
    (∃ path, value = .texture path) ∧
      (declarations.applyHooks declarations.uniforms frame).get? x = some value

/-- The hooks of an orderly stock write their parameters under the types that these have. -/
lemma Stock.Orderly.mem_parameterEntries {declarations : Declarations} {names : NamePool}
    (h : (declarations.stock names).Orderly) {entry : String × String}
    (hentry : entry ∈ parameterEntries (declarations.frameWrites frame)) :
    entry ∈ parameterEntries declarations.uniforms.entries := by
  rw [Declarations.frameWrites, parameterEntries, List.map_flatMap] at hentry
  obtain ⟨hook, hhook, hwritten⟩ := List.mem_flatMap.mp hentry
  have hdefault : entry ∈ parameterEntries hook.defaults := hook.entries_writes frame ▸ hwritten
  obtain ⟨default, hmem, rfl⟩ := List.mem_map.mp hdefault
  have hdeclared := OrderedMap.get?_eq_some_iff.mp (h.refreshed hook hhook default hmem)
  exact List.mem_map_of_mem (f := fun entry => (entry.2.glsl, entry.1)) hdeclared

/-- A parameter of an orderly stock is an image that no hook writes, or one of its hooks writes what
the frame says about it. -/
lemma Stock.Orderly.image_or_written {declarations : Declarations} {names : NamePool}
    (h : (declarations.stock names).Orderly) (frame : FrameInfo)
    (hx : declarations.uniforms.get? x = some value) :
    ((∃ path, value = .texture path) ∧ frame.valueOf? x = none) ∨
      ∃ hook ∈ declarations.hooks, ∃ current, (x, current) ∈ hook.writes frame := by
  rcases h.origin x value hx with ⟨path, rfl, hsampler⟩ | ⟨hook, hhook, hmem⟩
  · have hnone : frame.valueOf? x = none := by
      refine Option.eq_none_iff_forall_ne_some.mpr fun current hcurrent => ?_
      exact notMem_frameParameters hsampler.named (mem_frameParameters_of_valueOf? hcurrent)
    exact .inl ⟨⟨path, rfl⟩, hnone⟩
  · have hname : x ∈ (hook.writes frame).map Prod.fst := by
      rw [hook.map_fst_writes]
      exact List.mem_map_of_mem (f := Prod.fst) hmem
    obtain ⟨⟨name, current⟩, hwritten, rfl⟩ := List.mem_map.mp hname
    exact .inr ⟨hook, hhook, current, hwritten⟩

/-- In an orderly stock the hooks refresh the parameters. -/
theorem Stock.Orderly.refreshes {declarations : Declarations} {names : NamePool}
    (h : (declarations.stock names).Orderly) (frame : FrameInfo) :
    declarations.Refreshes frame := by
  refine ⟨?_, declarations.hooks.nodup, fun x hx value hvalue => ?_, fun x value hx hnone => ?_⟩
  · rw [declarations.applyHooks_eq]
    exact parameterEntries_foldl fun entry hentry => h.mem_parameterEntries hentry
  -- a parameter that the frame speaks about is no image, so a hook of the program writes it
  · obtain ⟨old, hold⟩ := OrderedMap.mem_keys_iff.mp hx
    rcases h.image_or_written frame hold with ⟨-, hnone⟩ | ⟨hook, hhook, current, hwritten⟩
    · exact absurd (hnone.symm.trans hvalue) nofun
    · obtain rfl : current = value :=
        Option.some.inj ((RenderHook.valueOf?_of_mem_writes hwritten).symm.trans hvalue)
      refine ⟨⟨hook, hhook, hwritten⟩, ?_⟩
      rw [declarations.applyHooks_eq]
      refine OrderedMap.get?_foldl_insert_of_mem (declarations.nodup_frameWrites frame) ?_
      exact List.mem_flatMap.mpr ⟨hook, hhook, hwritten⟩
  · rcases h.image_or_written frame hx with ⟨himage, -⟩ | ⟨hook, -, current, hwritten⟩
    · refine ⟨himage, ?_⟩
      rw [declarations.applyHooks_eq, OrderedMap.get?_foldl_insert_of_notMem ?_, hx]
      intro hmem
      obtain ⟨⟨name, current⟩, hwritten, rfl⟩ := List.mem_map.mp hmem
      obtain ⟨hook, -, hwritten⟩ := List.mem_flatMap.mp hwritten
      exact absurd (hnone.symm.trans (RenderHook.valueOf?_of_mem_writes hwritten)) nofun
    · exact absurd (hnone.symm.trans (RenderHook.valueOf?_of_mem_writes hwritten)) nofun

/-! ## Hooks of a compile -/

/-- The type of the nodes that ask for a hook. -/
def RenderHook.askedBy : RenderHook → String
  | .updateTime => "scene_time"
  | .updateCamera => "camera_data"
  | .updateObjectLocation => "object_info"

/-- A node asks for a hook when it is of the type that reads what the hook refreshes. -/
lemma Node.refresh_mem_demands {node : Node} :
    .refresh hook ∈ node.demands ↔ canonicalKind node.kind = hook.askedBy := by
  rw [Node.demands]
  unfold demandsOf
  split
  case h_6 htime hcamera hobject _ _ =>
    cases hook with
    | updateTime => simpa [RenderHook.askedBy] using htime
    | updateCamera => simpa [RenderHook.askedBy] using hcamera
    | updateObjectLocation => simpa [RenderHook.askedBy] using hobject
  all_goals
    next heq =>
      rw [heq]
      cases hook <;> simp [RenderHook.askedBy]

namespace ShaderCompiler

variable {tree : NodeTree} {roots : List Root} {shader : CompiledShader} {network : Network}

/-- A compile has the hooks that its evaluated nodes ask for, and no others. -/
theorem compile_hooks_iff (h : standard.compile tree roots = .ok shader) (hook : RenderHook) :
    hook ∈ shader.base.declarations.hooks ↔ ∃ i ∈ shader.evaluated, ∃ node,
      tree.nodes.values[i]? = some node ∧ canonicalKind node.kind = hook.askedBy := by
  obtain ⟨network, hcompiles⟩ := compiles_of_compile_eq_ok h
  obtain ⟨names, names', -, hstock⟩ := hcompiles.stock_eq
  have hhooks : shader.base.declarations.hooks = (shader.base.declarations.stock names').hooks :=
    rfl
  rw [hhooks, hstock, Stock.mem_hooks_foldl, or_iff_left OrderedSet.notMem_empty]
  simp only [NodeTree.demands, List.mem_flatMap, List.mem_filterMap, Node.refresh_mem_demands]
  constructor
  · rintro ⟨node, ⟨i, hi, hnode⟩, hkind⟩
    exact ⟨i, hi, node, hnode, hkind⟩
  · rintro ⟨i, hi, node, hnode, hkind⟩
    exact ⟨node, ⟨i, hi, hnode⟩, hkind⟩

/-- **In every frame the hooks of a compile refresh its parameters.**  All parameters about the
time, the camera and the object get the values of the frame, whatever tree they come from and in
whichever stage it reads them, and nothing else changes; and the hooks are just those that the types
of the evaluated nodes ask for. -/
theorem compile_refreshes (h : standard.compile tree roots = .ok shader) (frame : FrameInfo) :
    shader.base.declarations.Refreshes frame ∧
      ∀ hook, hook ∈ shader.base.declarations.hooks ↔ ∃ i ∈ shader.evaluated, ∃ node,
        tree.nodes.values[i]? = some node ∧ canonicalKind node.kind = hook.askedBy := by
  obtain ⟨network, hcompiles⟩ := compiles_of_compile_eq_ok h
  obtain ⟨names, horderly⟩ := hcompiles.orderly
  exact ⟨horderly.refreshes frame, compile_hooks_iff h⟩

/-- A tree that reads the camera and the time for the fragments, and the time once more and the
object for the vertices. -/
def beacon : NodeTree where
  nodes := .ofList
    [("eye", ⟨"eye", "camera_data", ∅, ∅, []⟩), ("clock", ⟨"clock", "scene_time", ∅, ∅, []⟩),
     ("place", ⟨"place", "object_info", ∅, ∅, []⟩),
     ("lift", ⟨"lift", "combine_xyz", ∅, ∅, []⟩), ("end", ⟨"end", "output_material", ∅, ∅, []⟩)]
  links :=
    [⟨⟨"eye", "view_vector"⟩, ⟨"end", "surface"⟩⟩, ⟨⟨"clock", "seconds"⟩, ⟨"end", "alpha"⟩⟩,
     ⟨⟨"clock", "frame"⟩, ⟨"lift", "x"⟩⟩, ⟨⟨"place", "random"⟩, ⟨"lift", "y"⟩⟩,
     ⟨⟨"clock", "seconds"⟩, ⟨"lift", "z"⟩⟩, ⟨⟨"lift", "vector"⟩, ⟨"end", "displacement"⟩⟩]

/-- In one frame the five parameters of the beacon hold the values of this frame. -/
theorem compile_refreshes_beacon :
    let eye : Vec 3 := ⟨#v[0, 1, 5]⟩
    let view : Vec 3 := ⟨#v[0, 0, -1]⟩
    let place : Vec 3 := ⟨#v[3, 0, 2]⟩
    let frame : FrameInfo := ⟨2.5, 150, eye, view, place⟩
    ∃ shader, standard.compile beacon [] = .ok shader ∧
      shader.base.declarations.uniforms.keys =
        ["uCameraPosition", "uCameraDirection", "uTime", "uFrame", "uObjectLocation"] ∧
      shader.base.declarations.hooks.toList = [.updateCamera, .updateTime, .updateObjectLocation] ∧
      shader.base.declarations.Refreshes frame ∧
      let table := shader.base.declarations.applyHooks shader.base.declarations.uniforms frame
      table.get? "uCameraPosition" = some (.vec3 eye) ∧
      table.get? "uCameraDirection" = some (.vec3 view) ∧
      table.get? "uTime" = some (.float (2.5 : Float).toFloat32) ∧
      table.get? "uFrame" = some (.float (150 : UInt64).toFloat32) ∧
      table.get? "uObjectLocation" = some (.vec3 place) := by
  intro eye view place frame
  have hdeclared : ((standard.compile beacon []).toOption.any fun shader =>
      shader.base.declarations.uniforms.keys == ["uCameraPosition", "uCameraDirection", "uTime",
        "uFrame", "uObjectLocation"] &&
      shader.base.declarations.hooks.toList ==
        [.updateCamera, .updateTime, .updateObjectLocation]) = true := by
    decide +kernel
  obtain ⟨shader, hshader, hdeclared⟩ := (Option.any_eq_true _ _).mp hdeclared
  obtain ⟨hkeys, hhooks⟩ := Bool.and_eq_true_iff.mp hdeclared
  have h := toOption_eq_some_iff.mp hshader
  have hkeys := eq_of_beq hkeys
  obtain ⟨hrefreshes, -⟩ := compile_refreshes h frame
  have hholds : ∀ x ∈ shader.base.declarations.uniforms.keys, ∀ value,
      frame.valueOf? x = some value →
        (shader.base.declarations.applyHooks shader.base.declarations.uniforms frame).get? x =
          some value :=
    fun x hx value hvalue => (hrefreshes.owned x hx value hvalue).2
  rw [hkeys] at hholds
  exact ⟨shader, h, hkeys, eq_of_beq hhooks, hrefreshes, hholds _ (by decide) _ rfl,
    hholds _ (by decide) _ rfl, hholds _ (by decide) _ rfl, hholds _ (by decide) _ rfl,
    hholds _ (by decide) _ rfl⟩

end ShaderCompiler

end SceneEngine.Shading
