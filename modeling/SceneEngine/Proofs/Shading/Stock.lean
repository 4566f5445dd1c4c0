import SceneEngine.Proofs.Shading.Demands

/-!
# What demands build up

The parameters, hooks and names of a compile are the result of meeting demands, one after another.
This module finds the invariant of this process and what it leads to in the end.

## The invariant

A stock is in order (`Stock.Orderly`) when the following holds:

* A parameter is the sampler of an image, under a name from the pool that no other parameter could
  have, or belongs to a hook that has been asked for.
* An image has one sampler at most.
* A hook that has been asked for finds its parameters as it declares them.

The empty stock is in order, and each demand keeps it so (`Stock.Orderly.meet`).  The interesting
demand is that for an image that has no sampler yet: the new name is not declared, since samplers
that are declared are in the pool and parameters of hooks do not have the form of samplers
(`notMem_keys`).  Asking for a hook declares its parameters unless they are declared, and then they
have the same values, because no two hooks declare one parameter with different ones.

## In the end

Nothing that is declared is lost again, so the images with a sampler are exactly those in the
demands (`Stock.Orderly.binds_foldl`), and the hooks are exactly those that have been asked for
(`Stock.mem_hooks_foldl`).  For a compile this says that they are those of its evaluated nodes.
-/

namespace SceneEngine.Shading

open Identifier

variable {stock : Stock} {demand : Demand} {demands : List Demand} {x y path : String}
  {value value' : UniformValue} {hook hook' : RenderHook}

/-! ## Parameters of hooks -/

/-- The parameters of all hooks, with their values. -/
def frameDefaults : List (String × UniformValue) := RenderHook.all.flatMap RenderHook.defaults

/-- All hooks are listed. -/
lemma RenderHook.mem_all (hook : RenderHook) : hook ∈ RenderHook.all := by
  cases hook <;> decide

/-- What a hook declares is among what all hooks declare. -/
lemma mem_frameDefaults {entry : String × UniformValue} (h : entry ∈ hook.defaults) :
    entry ∈ frameDefaults :=
  List.mem_flatMap.mpr ⟨hook, hook.mem_all, h⟩

lemma mem_frameParameters (h : (x, value) ∈ hook.defaults) : x ∈ frameParameters :=
  List.mem_map_of_mem (f := Prod.fst) (mem_frameDefaults h)

/-- No two hooks declare one parameter with different values. -/
lemma eq_of_mem_defaults (h : (x, value) ∈ hook.defaults) (h' : (x, value') ∈ hook'.defaults) :
    value = value' := by
  have hnodup : (frameDefaults.map Prod.fst).Nodup := by decide
  have hentry : (x, value) = (x, value') :=
    List.inj_on_of_nodup_map hnodup (mem_frameDefaults h) (mem_frameDefaults h') rfl
  exact (Prod.mk.inj hentry).2

/-- No parameter of a hook is a sampler. -/
lemma texture_notMem_defaults : (x, .texture path) ∉ hook.defaults := by
  cases hook <;> simp [RenderHook.defaults]

/-- A name of the form of those of samplers belongs to no hook. -/
lemma notMem_frameParameters (h : IsNamedAfter "tex" x) : x ∉ frameParameters := by
  have hparameters : ∀ name ∈ frameParameters, name.toList.head? ≠ some 't' := by decide
  exact fun hmem => hparameters x hmem (head?_of_isNamedAfter h rfl)

/-! ## Declaring -/

/-- What is declared stays, and everything else gets its first default; what has no default is not
declared. -/
lemma get?_declareAll (defaults : List (String × UniformValue)) (uniforms : UniformTable) :
    (declareAll defaults uniforms).get? x =
      (uniforms.get? x).or ((defaults.find? (·.1 == x)).map Prod.snd) := by
  induction defaults generalizing uniforms with
  | nil =>
    rw [List.find?_nil, Option.map_none, Option.or_none]
    rfl
  | cons entry defaults ih =>
    have hstep : declareAll (entry :: defaults) uniforms =
        declareAll defaults (uniforms.insertIfNew entry.1 entry.2) := rfl
    rw [hstep, ih, OrderedMap.get?_insertIfNew, List.find?_cons]
    -- the parameter is the first one that is declared now, or another one
    by_cases hx : x = entry.1
    · subst hx
      cases hget : uniforms.get? entry.1 with
      | none => simp [OrderedMap.get?_eq_none_iff.mp hget]
      | some value => simp [OrderedMap.mem_keys_iff.mpr ⟨value, hget⟩]
    · have hne : (entry.1 == x) = false := by simpa using Ne.symm hx
      rw [if_neg fun h => hx h.1, hne]

/-! ## Orderly stocks -/

/-- The name is that of a sampler, taken from the pool. -/
structure NamePool.IsSampler (pool : NamePool) (x : String) : Prop where
  /-- It starts with the word for samplers, -/
  named : IsNamedAfter "tex" x
  /-- can be told from what stands behind it in a call, -/
  tidy : Tidy x.toList
  /-- and will not be given out again. -/
  used : x ∈ pool.used

/-- Parameters and hooks belong together, and samplers to images.  The three parts need each other:
that a new sampler is not declared follows from `origin`. -/
structure Stock.Orderly (stock : Stock) : Prop where
  /-- Every parameter is a sampler, or belongs to a hook. -/
  origin : ∀ x value, stock.uniforms.get? x = some value →
    (∃ path, value = .texture path ∧ stock.names.IsSampler x) ∨
      ∃ hook ∈ stock.hooks, (x, value) ∈ hook.defaults
  /-- No image has two samplers. -/
  injective : ∀ x y path, stock.uniforms.get? x = some (.texture path) →
    stock.uniforms.get? y = some (.texture path) → x = y
  /-- Every hook finds its parameters. -/
  refreshed : ∀ hook ∈ stock.hooks, ∀ entry ∈ hook.defaults,
    stock.uniforms.get? entry.1 = some entry.2

namespace Stock

/-- In the beginning there are no parameters and no hooks. -/
lemma orderly_start (names : NamePool) : Orderly ⟨∅, ∅, names⟩ := by
  refine ⟨fun x value h => ?_, fun x y path h => ?_, fun hook h => ?_⟩
  · cases h
  · cases h
  · cases h

namespace Orderly

variable (h : stock.Orderly)
include h

/-- Samplers are named in the way of samplers. -/
lemma isSampler (hx : stock.uniforms.get? x = some (.texture path)) : stock.names.IsSampler x := by
  rcases h.origin x _ hx with ⟨-, -, hsampler⟩ | ⟨hook, -, hmem⟩
  · exact hsampler
  · exact absurd hmem texture_notMem_defaults

/-- A parameter of a hook that is declared has the value that the hook declares it with. -/
lemma eq_of_mem_defaults (hx : stock.uniforms.get? x = some value)
    (hmem : (x, value') ∈ hook.defaults) : value = value' := by
  rcases h.origin x value hx with ⟨path, -, hsampler⟩ | ⟨hook', -, hmem'⟩
  · exact absurd (mem_frameParameters hmem) (notMem_frameParameters hsampler.named)
  · exact Shading.eq_of_mem_defaults hmem' hmem

/-- A new name for a sampler is not declared. -/
lemma notMem_keys (hnamed : IsNamedAfter "tex" x) (hnew : x ∉ stock.names.used) :
    x ∉ stock.uniforms.keys := by
  intro hmem
  obtain ⟨value, hx⟩ := OrderedMap.mem_keys_iff.mp hmem
  rcases h.origin x value hx with ⟨path, -, hsampler⟩ | ⟨hook, -, hmem⟩
  · exact hnew hsampler.used
  · exact notMem_frameParameters hnamed (mem_frameParameters hmem)

/-- Once a hook has been asked for, there are its parameters beside those that were there. -/
lemma get?_refresh :
    (stock.meet (.refresh hook)).uniforms.get? x = some value ↔
      stock.uniforms.get? x = some value ∨ (x, value) ∈ hook.defaults := by
  -- a hook declares each of its parameters once, so the first entry of a name is the only one
  have hdefaults : (hook.defaults.map Prod.fst).Nodup := by cases hook <;> decide
  have hget : (stock.meet (.refresh hook)).uniforms.get? x =
      (stock.uniforms.get? x).or ((hook.defaults.find? (·.1 == x)).map Prod.snd) :=
    get?_declareAll _ _
  have hfind : (hook.defaults.find? (·.1 == x)).map Prod.snd = some value ↔
      (x, value) ∈ hook.defaults :=
    OrderedMap.get?_eq_some_iff (m := ⟨hook.defaults, hdefaults⟩)
  rw [hget, Option.or_eq_some_iff]
  constructor
  · exact Or.imp_right fun hboth => hfind.mp hboth.2
  · rintro (hx | hmem)
    · exact .inl hx
    · cases hx : stock.uniforms.get? x with
      | none => exact .inr ⟨rfl, hfind.mpr hmem⟩
      | some value' => exact .inl (by rw [h.eq_of_mem_defaults hx hmem])

/-- Once an image without a sampler has been asked for, it has one, under a new name. -/
lemma get?_image (hnone : Emit.samplerOf? stock.uniforms path = none) :
    (stock.meet (.image path)).uniforms.get? x = some value ↔
      (x = stock.sampler path ∧ value = .texture path) ∨ stock.uniforms.get? x = some value := by
  have hname := Stock.sampler_of_none hnone
  -- the pool gives a name of the form of samplers that it has not given before, so it is not
  -- declared
  obtain ⟨hnamed, -, hnew⟩ := stock.names.allocate_cons (show isStem "tex" = true by decide) [path]
  rw [← hname] at hnamed hnew
  have hkeys : stock.sampler path ∉ stock.uniforms.keys := h.notMem_keys hnamed hnew
  have huniforms : (stock.meet (.image path)).uniforms =
      stock.uniforms.insertIfNew (stock.sampler path) (.texture path) := by
    rw [meet, hnone]
  rw [huniforms, OrderedMap.get?_insertIfNew]
  by_cases hx : x = stock.sampler path
  · rw [if_pos ⟨hx, hkeys⟩, hx, OrderedMap.get?_eq_none_iff.mpr hkeys]
    simp [eq_comm]
  · rw [if_neg fun hboth => hx hboth.1]
    simp [hx]

/-- Meeting a demand leaves the stock in order. -/
theorem meet (demand : Demand) : (stock.meet demand).Orderly := by
  cases demand with
  | refresh hook =>
    have hhooks : ∀ hook', hook' ∈ (stock.meet (.refresh hook)).hooks ↔
        hook' = hook ∨ hook' ∈ stock.hooks := fun _ => OrderedSet.mem_insert
    refine ⟨fun x value hx => ?_, fun x y path hx hy => ?_, fun hook' hhook' entry hentry => ?_⟩
    · rcases h.get?_refresh.mp hx with hx | hmem
      · refine (h.origin x value hx).imp_right fun ⟨hook', hhook', hmem⟩ => ⟨hook', ?_, hmem⟩
        exact (hhooks hook').mpr (.inr hhook')
      · exact .inr ⟨hook, (hhooks hook).mpr (.inl rfl), hmem⟩
    · exact h.injective x y path ((h.get?_refresh.mp hx).resolve_right texture_notMem_defaults)
        ((h.get?_refresh.mp hy).resolve_right texture_notMem_defaults)
    · refine h.get?_refresh.mpr ?_
      rcases (hhooks hook').mp hhook' with rfl | hhook'
      · exact .inr hentry
      · exact .inl (h.refreshed hook' hhook' entry hentry)
  | image path =>
    cases hfound : Emit.samplerOf? stock.uniforms path with
    | some name =>
      rw [meet_image_of_some hfound]
      exact h
    | none =>
      have hbound := Emit.samplerOf?_eq_none_iff.mp hfound
      have hname := Stock.sampler_of_none hfound
      have hmeet := Stock.meet_image_of_none hfound
      obtain ⟨hnamed, htidy, -⟩ :=
        stock.names.allocate_cons (show isStem "tex" = true by decide) [path]
      rw [← hname] at hnamed htidy
      have hhooks : (stock.meet (.image path)).hooks = stock.hooks := by rw [hmeet]
      have hused : (stock.meet (.image path)).names.used =
          stock.sampler path :: stock.names.used := by
        rw [hmeet, hname, NamePool.snd_allocate]
      refine ⟨fun x value hx => ?_, fun x y path' hx hy => ?_, fun hook hhook entry hentry => ?_⟩
      · rcases (h.get?_image hfound).mp hx with ⟨rfl, rfl⟩ | hx
        · refine .inl ⟨path, rfl, hnamed, htidy, ?_⟩
          rw [hused]
          exact List.mem_cons_self
        · rw [hhooks]
          refine (h.origin x value hx).imp_left fun ⟨path', hvalue, hsampler⟩ =>
            ⟨path', hvalue, hsampler.named, hsampler.tidy, ?_⟩
          rw [hused]
          exact List.mem_cons_of_mem _ hsampler.used
      · rcases (h.get?_image hfound).mp hx with ⟨rfl, hpath⟩ | hx
        · rcases (h.get?_image hfound).mp hy with ⟨rfl, -⟩ | hy
          · rfl
          · cases hpath
            exact absurd hy (hbound y)
        · rcases (h.get?_image hfound).mp hy with ⟨rfl, hpath⟩ | hy
          · cases hpath
            exact absurd hx (hbound x)
          · exact h.injective x y path' hx hy
      · rw [hhooks] at hhook
        exact (h.get?_image hfound).mpr (.inr (h.refreshed hook hhook entry hentry))
  | helper node suffix =>
    refine ⟨fun x value hx => ?_, h.injective, h.refreshed⟩
    refine (h.origin x value hx).imp_left fun ⟨path, hvalue, hsampler⟩ =>
      ⟨path, hvalue, hsampler.named, hsampler.tidy, ?_⟩
    exact List.mem_cons_of_mem _ hsampler.used

end Orderly

/-- Whatever demands are met, the stock is in order. -/
theorem orderly_foldl (h : stock.Orderly) (demands : List Demand) :
    (demands.foldl Stock.meet stock).Orderly := by
  induction demands generalizing stock with
  | nil => exact h
  | cons demand demands ih => exact ih (h.meet demand)

/-! ## What there is in the end -/

namespace Orderly

/-- What is declared keeps its value. -/
lemma get?_meet (h : stock.Orderly) (hx : stock.uniforms.get? x = some value) (demand : Demand) :
    (stock.meet demand).uniforms.get? x = some value := by
  cases demand with
  | refresh hook => exact h.get?_refresh.mpr (.inl hx)
  | image path =>
    cases hfound : Emit.samplerOf? stock.uniforms path with
    | some name => rwa [meet_image_of_some hfound]
    | none => exact (h.get?_image hfound).mpr (.inr hx)
  | helper node suffix => exact hx

/-- What is declared keeps its value, whatever demands come after. -/
lemma get?_foldl (h : stock.Orderly) (hx : stock.uniforms.get? x = some value)
    (demands : List Demand) : (demands.foldl Stock.meet stock).uniforms.get? x = some value := by
  induction demands generalizing stock with
  | nil => exact hx
  | cons demand demands ih => exact ih (h.meet demand) (h.get?_meet hx demand)

/-- The sampler that a node gets for an image is bound to it. -/
lemma get?_sampler (h : stock.Orderly) (path : String) :
    (stock.meet (.image path)).uniforms.get? (stock.sampler path) = some (.texture path) := by
  cases hfound : Emit.samplerOf? stock.uniforms path with
  | some name =>
    rw [meet_image_of_some hfound, sampler_of_some hfound]
    exact Emit.get?_of_samplerOf? hfound
  | none => exact (h.get?_image hfound).mpr (.inl ⟨rfl, rfl⟩)

end Orderly

/-- An image has a sampler. -/
def Binds (stock : Stock) (path : String) : Prop :=
  ∃ x, stock.uniforms.get? x = some (.texture path)

/-- An image gets a sampler by being asked for. -/
lemma Orderly.binds_meet (h : stock.Orderly) :
    (stock.meet demand).Binds path ↔ demand = .image path ∨ stock.Binds path := by
  constructor
  · rintro ⟨x, hx⟩
    cases demand with
    | refresh hook =>
      exact .inr ⟨x, (h.get?_refresh.mp hx).resolve_right texture_notMem_defaults⟩
    | image path' =>
      cases hfound : Emit.samplerOf? stock.uniforms path' with
      | some name =>
        rw [meet_image_of_some hfound] at hx
        exact .inr ⟨x, hx⟩
      | none =>
        rcases (h.get?_image hfound).mp hx with ⟨-, hpath⟩ | hx
        · rw [UniformValue.texture.inj hpath]
          exact .inl rfl
        · exact .inr ⟨x, hx⟩
    | helper node suffix => exact .inr ⟨x, hx⟩
  · rintro (rfl | ⟨x, hx⟩)
    · exact ⟨_, h.get?_sampler path⟩
    · exact ⟨x, h.get?_meet hx demand⟩

/-- The images with a sampler are those that have been asked for, or had one at the start. -/
theorem Orderly.binds_foldl (h : stock.Orderly) :
    (demands.foldl Stock.meet stock).Binds path ↔ .image path ∈ demands ∨ stock.Binds path := by
  induction demands generalizing stock with
  | nil => simp
  | cons demand demands ih =>
    rw [List.foldl_cons, ih (h.meet demand), h.binds_meet, List.mem_cons, eq_comm (b := demand)]
    tauto

/-- A hook is there by being asked for. -/
lemma mem_hooks_meet : hook ∈ (stock.meet demand).hooks ↔
    demand = .refresh hook ∨ hook ∈ stock.hooks := by
  -- only the first kind of demand adds a hook
  cases demand with
  | refresh hook' =>
    have hhooks : (stock.meet (.refresh hook')).hooks = stock.hooks.insert hook' := rfl
    rw [hhooks, OrderedSet.mem_insert, Demand.refresh.injEq, eq_comm]
  | image path =>
    have hhooks : (stock.meet (.image path)).hooks = stock.hooks := by
      rw [meet]
      split <;> rfl
    simp [hhooks]
  | helper node suffix =>
    have hhooks : (stock.meet (.helper node suffix)).hooks = stock.hooks := rfl
    simp [hhooks]

/-- The hooks are those that have been asked for. -/
theorem mem_hooks_foldl : hook ∈ (demands.foldl Stock.meet stock).hooks ↔
    .refresh hook ∈ demands ∨ hook ∈ stock.hooks := by
  induction demands generalizing stock with
  | nil => simp
  | cons demand demands ih =>
    rw [List.foldl_cons, ih, mem_hooks_meet, List.mem_cons, eq_comm (b := demand)]
    tauto

end Stock

/-! ## Demands of nodes -/

/-- A node reads an image: it is of the type that samples images, and names this one. -/
def Node.ReadsImage (node : Node) (path : String) : Prop :=
  canonicalKind node.kind = "tex_image" ∧ Nodes.imagePath? node = some path

/-- A node asks for an image when it reads the image. -/
lemma Node.image_mem_demands {node : Node} :
    .image path ∈ node.demands ↔ node.ReadsImage path := by
  rw [Node.demands, Node.ReadsImage]
  -- only one type of node asks for images
  by_cases hkind : canonicalKind node.kind = "tex_image"
  · have hdemands : demandsOf "tex_image" node =
        (Nodes.imagePath? node).toList.map Demand.image ++ [.helper node.id "sample"] := rfl
    simp [hkind, hdemands]
  · unfold demandsOf
    split
    case h_4 heq => exact absurd heq hkind
    all_goals simp [hkind]

/-- The images that some nodes ask for are those that they read. -/
lemma NodeTree.image_mem_demands {tree : NodeTree} {indices : List Nat} :
    .image path ∈ tree.demands indices ↔
      ∃ i ∈ indices, ∃ node, tree.nodes.values[i]? = some node ∧ node.ReadsImage path := by
  simp only [NodeTree.demands, List.mem_flatMap, List.mem_filterMap, Node.image_mem_demands]
  constructor
  · rintro ⟨node, ⟨i, hi, hnode⟩, hreads⟩
    exact ⟨i, hi, node, hnode, hreads⟩
  · rintro ⟨i, hi, node, hnode, hreads⟩
    exact ⟨node, ⟨i, hi, hnode⟩, hreads⟩

/-- In the end the parameters and hooks of a compile belong together. -/
lemma ShaderCompiler.Compiles.orderly {tree : NodeTree} {roots : List Root}
    {shader : CompiledShader} {network : Network}
    (h : Compiles standard tree roots shader network) :
    ∃ names, (shader.base.declarations.stock names).Orderly := by
  obtain ⟨names, names', -, hstock⟩ := h.stock_eq
  exact ⟨names', hstock ▸ Stock.orderly_foldl (Stock.orderly_start names) _⟩

end SceneEngine.Shading
