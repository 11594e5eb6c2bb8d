import Rebac.Yaml.Scalar

/-! # YAML values -/

namespace Rebac

/-- A YAML value. The keys of a map are texts. -/
inductive Yaml where
  | scalar (s : Yaml.Scalar)
  | list (items : List Yaml)
  | map (entries : List (String × Yaml))
deriving Repr, Inhabited

namespace Yaml

/-- Null. -/
def null : Yaml := .scalar .null

/-- A text. -/
def text (s : String) : Yaml := .scalar (.text s)

end Yaml

end Rebac
