/-!
# Mathematics

Names of mathematical functions.
-/

namespace Provision
namespace Process

/-! ## Families -/

/-- Functions that come in every format. -/
def families : List String :=
  [ "acos", "acosh", "asin", "asinh", "atan", "atan2", "atanh", "cabs", "cacos", "cacosh",
    "canonicalize", "carg", "casin", "casinh", "catan", "catanh", "cbrt", "ccos", "ccosh", "ceil",
    "cexp", "cimag", "clog", "clog10", "conj", "copysign", "cos", "cosh", "cpow", "cproj", "creal",
    "csin", "csinh", "csqrt", "ctan", "ctanh", "erf", "erfc", "exp", "exp10", "exp2", "expm1",
    "fabs", "fdim", "floor", "fma", "fmax", "fmaximum", "fmaximum_mag", "fmaximum_mag_num",
    "fmaximum_num", "fmaxmag", "fmin", "fminimum", "fminimum_mag", "fminimum_mag_num",
    "fminimum_num", "fminmag", "fmod", "frexp", "fromfp", "fromfpx", "getpayload", "hypot", "ilogb",
    "j0", "j1", "jn", "ldexp", "lgamma", "llogb", "llrint", "llround", "log", "log10", "log1p",
    "log2", "logb", "lrint", "lround", "modf", "nan", "nearbyint", "nextafter", "nextdown",
    "nextup", "pow", "remainder", "remquo", "rint", "round", "roundeven", "scalbln", "scalbn",
    "setpayload", "setpayloadsig", "sin", "sincos", "sinh", "sqrt", "tan", "tanh", "tgamma",
    "totalorder", "totalordermag", "trunc", "ufromfp", "ufromfpx", "y0", "y1", "yn" ]

/-- Functions that come in the formats of old only. -/
def classical : List String :=
  [ "drem", "finite", "gamma", "isinf", "isnan", "nexttoward", "scalb", "significand" ]

/-- The name of a function in each format of old. -/
def formats (name : String) : List String :=
  ["", "f", "l"].map fun ending => name ++ ending

/-- The name of a function in each format that is named for its width. -/
def interchange (name : String) : List String :=
  ["f32", "f64", "f128", "f32x", "f64x"].map fun ending => name ++ ending

/-! ## Narrowing -/

/-- Each format with the wider ones. -/
def widenings : List (String × List String) :=
  [ ("f32", ["f64", "f128", "f32x", "f64x"]),
    ("f32x", ["f64", "f128", "f64x"]),
    ("f64", ["f128", "f64x"]),
    ("f64x", ["f128"]) ]

/-- Operations on numbers of a wider format that round to a format. -/
def narrowing : List String :=
  widenings.flatMap fun (narrow, wider) =>
    ["add", "div", "fma", "mul", "sqrt", "sub"].flatMap fun operation =>
      wider.map fun wide => narrow ++ operation ++ wide

/-! ## Other functions -/

/-- The floating-point environment, and functions of one format. -/
def environment : List String :=
  [ "daddl", "ddivl", "dfmal", "dmull", "dsqrtl", "dsubl", "fadd", "faddl", "fdiv", "fdivl",
    "feclearexcept", "fedisableexcept", "feenableexcept", "fegetenv", "fegetexcept",
    "fegetexceptflag", "fegetmode", "fegetround", "feholdexcept", "feraiseexcept", "fesetenv",
    "fesetexcept", "fesetexceptflag", "fesetmode", "fesetround", "fetestexcept", "fetestexceptflag",
    "feupdateenv", "ffma", "ffmal", "fmul", "fmull", "fsqrt", "fsqrtl", "fsub", "fsubl", "lgamma_r",
    "lgammaf128_r", "lgammaf32_r", "lgammaf32x_r", "lgammaf64_r", "lgammaf64x_r", "lgammaf_r",
    "lgammal_r", "signgam" ]

def mathematics : List String :=
  (families ++ classical).flatMap formats ++ families.flatMap interchange ++ narrowing
    ++ environment

end Process
end Provision
