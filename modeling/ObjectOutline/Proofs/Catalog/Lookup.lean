import ObjectOutline.Catalog
import ObjectOutline.Proofs.Symbol.Metadata

/-! Objects looked up in a catalog of symbols: each is given back as it was registered. -/
namespace ObjectOutline.Catalog

variable (files : FileReader) (maxDepth : Nat) (query : CatalogItem)

theorem decode_toJson (symbol : ObjectSymbol) : decode symbol.toJson = .ok symbol := by
  rw [decode, ObjectSymbol.readsBack symbol]
  rfl

/-- The item of a registered symbol stands for that symbol, whatever the files are. -/
theorem resolve_ofSymbol (symbol : ObjectSymbol) :
    resolve files maxDepth (.ofSymbol symbol) = .ok ⟨symbol, []⟩ := by
  have hDecode := decode_toJson symbol
  rw [resolve, CatalogItem.ofSymbol]
  show (decode symbol.toJson).map (fun symbol => Parsed.mk symbol []) = .ok ⟨symbol, []⟩
  rw [hDecode]
  rfl

/-- Symbols are registered one behind the other. -/
theorem foldl_withSymbol (catalog : Catalog) (symbols : List ObjectSymbol) :
    symbols.foldl withSymbol catalog = catalog ++ symbols.map .ofSymbol := by
  induction symbols generalizing catalog with
  | nil => simp
  | cons symbol rest ih =>
      rw [List.foldl_cons, ih, withSymbol, List.map_cons, List.append_assoc, List.singleton_append]

/-- Metadata loses nothing, and a catalog of registered symbols answers with the first one of the
wanted number and type, the case of ASCII letters ignored, or says that there is none. It fails in no
other way. -/
theorem lookup_registered :
    (∀ symbol : ObjectSymbol, decode symbol.toJson = .ok symbol) ∧
    ∀ (symbols : List ObjectSymbol) (files : FileReader) (maxDepth : Nat) (query : CatalogItem),
      lookup (some (symbols.foldl withSymbol [])) files maxDepth query =
        match symbols.find? fun symbol => symbol.header.id == query.id &&
            symbol.header.objectType.toLower == query.objectType.toLower with
        | some symbol => .ok ⟨symbol, []⟩
        | none => .error (.objectNotFound query.objectType query.id) := by
  refine ⟨decode_toJson, ?_⟩
  intro symbols files maxDepth query
  have hSame : (fun item : CatalogItem => item.sameObject query) ∘ CatalogItem.ofSymbol =
      fun symbol => symbol.header.id == query.id &&
        symbol.header.objectType.toLower == query.objectType.toLower := by
    funext symbol
    rw [Function.comp_apply, CatalogItem.sameObject, Text.sameWord_eq]
    rfl
  rw [lookup, foldl_withSymbol, List.nil_append, List.find?_map, hSame]
  cases symbols.find? fun symbol => symbol.header.id == query.id &&
      symbol.header.objectType.toLower == query.objectType.toLower with
  | none => rfl
  | some symbol => exact resolve_ofSymbol files maxDepth symbol

end ObjectOutline.Catalog
