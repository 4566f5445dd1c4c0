import SceneEngine.Shading.FragmentLibrary

/-!
# The fragments at hand

The pieces of shader source that the node types of this library include.  Each defines functions
under names with a prefix of their own, which no generated name has, and nothing else: no parameter,
no attribute and no passed value.  Only noise depends on another fragment.

Sources are kept as lists of lines and start and end with a line break, which is trimmed when they
are put into a program.
-/

namespace SceneEngine.Shading

/-- The source made of lines, with a line break before and after. -/
def sourceOf (lines : List String) : String := "\n" ++ "\n".intercalate lines ++ "\n"

/-- Hashes of a place. -/
def hashSource : String := sourceOf
  ["float tessel_hash13(vec3 p3) \x7b",
   "    p3 = fract(p3 * 0.1031);",
   "    p3 += dot(p3, p3.zyx + 31.32);",
   "    return fract((p3.x + p3.y) * p3.z);",
   "\x7d",
   "",
   "vec3 tessel_hash33(vec3 p3) \x7b",
   "    p3 = fract(p3 * vec3(0.1031, 0.1030, 0.0973));",
   "    p3 += dot(p3, p3.yxz + 33.33);",
   "    return fract((p3.xxy + p3.yxx) * p3.zyx);",
   "\x7d"]

/-- Smooth noise, and its fractal sum, made of hashes. -/
def noiseSource : String := sourceOf
  ["float tessel_value_noise(vec3 p) \x7b",
   "    vec3 i = floor(p);",
   "    vec3 f = fract(p);",
   "    vec3 u = f * f * (3.0 - 2.0 * f);",
   "    float n000 = tessel_hash13(i);",
   "    float n100 = tessel_hash13(i + vec3(1.0, 0.0, 0.0));",
   "    float n010 = tessel_hash13(i + vec3(0.0, 1.0, 0.0));",
   "    float n110 = tessel_hash13(i + vec3(1.0, 1.0, 0.0));",
   "    float n001 = tessel_hash13(i + vec3(0.0, 0.0, 1.0));",
   "    float n101 = tessel_hash13(i + vec3(1.0, 0.0, 1.0));",
   "    float n011 = tessel_hash13(i + vec3(0.0, 1.0, 1.0));",
   "    float n111 = tessel_hash13(i + vec3(1.0, 1.0, 1.0));",
   "    return mix(",
   "        mix(mix(n000, n100, u.x), mix(n010, n110, u.x), u.y),",
   "        mix(mix(n001, n101, u.x), mix(n011, n111, u.x), u.y),",
   "        u.z);",
   "\x7d",
   "",
   "float tessel_fbm(vec3 p, float detail, float roughness) \x7b",
   "    float value = 0.0;",
   "    float amplitude = 1.0;",
   "    float total = 0.0;",
   "    int octaves = int(clamp(detail, 0.0, 15.0)) + 1;",
   "    for (int i = 0; i < 16; i++) \x7b",
   "        if (i >= octaves) break;",
   "        value += amplitude * tessel_value_noise(p);",
   "        total += amplitude;",
   "        amplitude *= clamp(roughness, 0.0, 1.0);",
   "        p *= 2.0;",
   "    \x7d",
   "    return value / max(total, 1e-5);",
   "\x7d"]

/-- Mapping one range of numbers to another. -/
def mapRangeSource : String := sourceOf
  ["float tessel_map_range(float value, float fromMin, float fromMax, float toMin, float toMax) \x7b",
   "    if (fromMax == fromMin) return toMin;",
   "    return toMin + (value - fromMin) * (toMax - toMin) / (fromMax - fromMin);",
   "\x7d"]

/-- Limiting a number between two bounds in any order. -/
def clampRangeSource : String := sourceOf
  ["float tessel_clamp_range(float value, float a, float b) \x7b",
   "    return a > b ? clamp(value, b, a) : clamp(value, a, b);",
   "\x7d"]

/-- The ways to blend two colors. -/
def blendSource : String := sourceOf
  ["vec4 tessel_blend_mix(float fac, vec4 a, vec4 b) \x7b return vec4(mix(a.rgb, b.rgb, fac), a.a); \x7d",
   "vec4 tessel_blend_add(float fac, vec4 a, vec4 b) \x7b return vec4(mix(a.rgb, a.rgb + b.rgb, fac), a.a); \x7d",
   "vec4 tessel_blend_subtract(float fac, vec4 a, vec4 b) \x7b return vec4(mix(a.rgb, a.rgb - b.rgb, fac), a.a); \x7d",
   "vec4 tessel_blend_multiply(float fac, vec4 a, vec4 b) \x7b return vec4(mix(a.rgb, a.rgb * b.rgb, fac), a.a); \x7d",
   "vec4 tessel_blend_screen(float fac, vec4 a, vec4 b) \x7b",
   "    return vec4(vec3(1.0) - (vec3(1.0 - fac) + fac * (vec3(1.0) - b.rgb)) * (vec3(1.0) - a.rgb), a.a);",
   "\x7d",
   "vec4 tessel_blend_darken(float fac, vec4 a, vec4 b) \x7b return vec4(mix(a.rgb, min(a.rgb, b.rgb), fac), a.a); \x7d",
   "vec4 tessel_blend_lighten(float fac, vec4 a, vec4 b) \x7b return vec4(mix(a.rgb, max(a.rgb, b.rgb), fac), a.a); \x7d",
   "vec4 tessel_blend_difference(float fac, vec4 a, vec4 b) \x7b return vec4(mix(a.rgb, abs(a.rgb - b.rgb), fac), a.a); \x7d"]

/-- The fragments of this library. -/
def builtinFragments : List Fragment :=
  [{ name := "hash", source := hashSource },
   { name := "noise", source := noiseSource, dependencies := ["hash"] },
   { name := "map_range", source := mapRangeSource },
   { name := "clamp_range", source := clampRangeSource },
   { name := "blend", source := blendSource }]

/-- The library of the fragments at hand. -/
def FragmentLibrary.builtin : FragmentLibrary :=
  builtinFragments.foldl (fun library fragment => (library.register fragment).1) .empty

end SceneEngine.Shading
