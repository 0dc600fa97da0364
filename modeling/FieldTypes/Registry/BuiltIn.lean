import FieldTypes.Registry.Definition

namespace FieldTypes.Registry

/-! The library classes that models of serialised data usually mention.  They
have type parameters and no fields. -/

def builtIns : List ClassDeclaration :=
  [ ⟨"java.lang.Object", [], []⟩,
    ⟨"java.lang.String", [], []⟩,
    ⟨"java.lang.Boolean", [], []⟩,
    ⟨"java.lang.Byte", [], []⟩,
    ⟨"java.lang.Short", [], []⟩,
    ⟨"java.lang.Character", [], []⟩,
    ⟨"java.lang.Integer", [], []⟩,
    ⟨"java.lang.Long", [], []⟩,
    ⟨"java.lang.Float", [], []⟩,
    ⟨"java.lang.Double", [], []⟩,
    ⟨"java.math.BigInteger", [], []⟩,
    ⟨"java.math.BigDecimal", [], []⟩,
    ⟨"java.util.List", ["E"], []⟩,
    ⟨"java.util.Set", ["E"], []⟩,
    ⟨"java.util.TreeSet", ["E"], []⟩,
    ⟨"java.util.Map", ["K", "V"], []⟩,
    ⟨"java.util.SortedMap", ["K", "V"], []⟩ ]

theorem builtIns_names_nodup : (builtIns.map (·.name)).Nodup := by
  decide

/-- A registry that holds the built-in classes, in their order. -/
def withBuiltIns (identity : RegistryId) : Registry :=
  builtIns.foldl store (empty identity)

end FieldTypes.Registry
