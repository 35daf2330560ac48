import Mathlib.Data.List.Infix
import ObjectOutline.Proofs.Brace.Comment
import ObjectOutline.Proofs.Parse.TopLevel
import ObjectOutline.Proofs.Region.OwnLines

/-! Comments and the declared object. Header lines and property lines are read as they are written, and so
are comments in them. A comment that no header and no property is read off can be overwritten with spaces,
and the object stays the same. -/
namespace ObjectOutline

namespace Property

/-- A line that starts with a slash is not a property. -/
theorem ofLine?_slash_cons (rest : List Char) : ofLine? ('/' :: rest) = none := by
  have hSlash : Text.isBlank '/' = false := by decide
  obtain ⟨trimmed, hTrim⟩ : ∃ trimmed, Text.trim ('/' :: rest) = '/' :: trimmed := by
    rw [Text.trim, Text.trimStart_cons_of_not_isBlank hSlash, Text.trimEnd, List.reverse_cons,
      List.dropWhile_append]
    split
    · exact ⟨[], by simp [hSlash]⟩
    · exact ⟨(rest.reverse.dropWhile Text.isBlank).reverse, by simp⟩
  rw [ofLine?, hTrim]
  rfl

end Property

/-- A comment within one line is not a property. -/
theorem Text.IsComment.ofLines_eq_nil {before comment after : List Char}
    (h : IsComment before comment after) (hLine : '\n' ∉ comment) : Property.ofLines comment = [] := by
  obtain ⟨-, rest, rfl⟩ := h.exists_cons
  rw [Property.ofLines_of_not_mem hLine, Property.ofLine?_slash_cons]
  rfl

namespace Parse

theorem objects_objects (maxDepth : Nat) (text : List Char) :
    (objects maxDepth text).objects = (Region.matchSource maxDepth text).regions.map Region.toSymbol :=
  rfl

/-- The objects of a source, without their header lines as written, are those of its regions without
them. -/
theorem map_withoutSources_objects (maxDepth : Nat) (text : List Char) :
    (objects maxDepth text).objects.map ObjectSymbol.withoutSources =
      (Region.withoutSourceAll (Region.matchSource maxDepth text).regions).map Region.toSymbol := by
  rw [objects_objects, Region.withoutSourceAll_eq_map, List.map_map, List.map_map]
  exact List.map_congr_left fun region _ => region.toSymbol_withoutSource.symm

theorem withoutSources_object_text (maxDepth : Nat) (text : List Char) :
    (Parse.text maxDepth text).object.withoutSources =
      (((objects maxDepth text).objects.map ObjectSymbol.withoutSources).head?).getD .unparsed := by
  rw [object_text]
  cases (objects maxDepth text).objects <;> rfl

theorem withoutSources_object_of_alike (maxDepth : Nat) {first second : List Char}
    (h : Region.Alike (max 1 maxDepth) 0 first second) :
    (Parse.text maxDepth first).object.withoutSources =
      (Parse.text maxDepth second).object.withoutSources := by
  rw [withoutSources_object_text, withoutSources_object_text, map_withoutSources_objects,
    map_withoutSources_objects, Region.matchSource, Region.matchSource, h 0 0]

/-- Comments that are not read are invisible. Where the blocks around a comment have the same properties
with the comment as with spaces in its place, and the block that opens next behind it has the same header,
the declared object is the same, apart from the header lines as written. So it is for a comment on lines of
its own, unless it stands between a brace and its header line, or runs over several lines and one of them
looks like a property. -/
theorem object_of_blanked_comment (maxDepth : Nat) {before comment after : List Char}
    (hComment : Text.IsComment before comment after) :
    (Text.ReadAlike before comment (Text.blanked comment) after →
      (Parse.text maxDepth (before ++ (comment ++ after))).object.withoutSources =
        (Parse.text maxDepth (before ++ (Text.blanked comment ++ after))).object.withoutSources) ∧
    (Text.OwnLines before after → ('\n' ∈ comment → Property.ofLines comment = []) →
      (∀ next ∈ Block.find? after, Text.lastFilledLine next.pre ≠ []) →
        Text.ReadAlike before comment (Text.blanked comment) after) := by
  refine ⟨fun hRead => ?_, fun hLines hSilent hHeader => ?_⟩
  · apply withoutSources_object_of_alike
    exact Region.alike_of_passed hRead hComment.passed hComment.passed_blanked
  · have hNone : Property.ofLines comment = [] := by
      by_cases hLine : '\n' ∈ comment
      · exact hSilent hLine
      · exact hComment.ofLines_eq_nil hLine
    exact hLines.readAlike hComment.passed hComment.passed_blanked hNone
      (Property.ofLines_of_isBlank Text.isBlank_of_mem_blanked) hHeader

/-- A block comment with a brace in it stands between a header and its brace, and a line comment with one
stands on a line of its own in front of a header. -/
theorem object_of_comment_before_brace :
    (Parse.text 64 ("table 1 A\n\x7b\nfields\n\x7b\nfield(1; B; Code[20]) ".toList ++
      ("/* key \x7b */".toList ++
        "\n\x7b\nCaption = 'C';\n\x7d\n\x7d\n\x7d".toList))).object.withoutSources =
        (Parse.text 64 ("table 1 A\n\x7b\nfields\n\x7b\nfield(1; B; Code[20]) ".toList ++
          (Text.blanked "/* key \x7b */".toList ++
            "\n\x7b\nCaption = 'C';\n\x7d\n\x7d\n\x7d".toList))).object.withoutSources ∧
      Text.ReadAlike "table 1 A\n\x7b\n  ".toList "// keys \x7b".toList
        (Text.blanked "// keys \x7b".toList) "\nfields\n\x7b\n\x7d\n\x7d".toList := by
  have hPrefixes : ∀ left ∈ " key \x7b *".toList.inits,
      (Mode.blockComment.run left).inBlockComment = true := by decide +kernel
  have hBlock : Text.IsComment "table 1 A\n\x7b\nfields\n\x7b\nfield(1; B; Code[20]) ".toList
      "/* key \x7b */".toList "\n\x7b\nCaption = 'C';\n\x7d\n\x7d\n\x7d".toList := by
    have hText : "/* key \x7b */".toList = '/' :: '*' :: (" key \x7b *".toList ++ ['/']) := by decide
    rw [hText]
    exact .block (by decide) (fun left hLeft => hPrefixes left ((List.mem_inits _ _).mpr hLeft))
      (by decide)
  have hLine : Text.IsComment "table 1 A\n\x7b\n  ".toList "// keys \x7b".toList
      "\nfields\n\x7b\n\x7d\n\x7d".toList :=
    .line (by decide) (by decide) (Or.inr ⟨_, rfl⟩)
  have hOwn : Text.OwnLines "table 1 A\n\x7b\n  ".toList "\nfields\n\x7b\n\x7d\n\x7d".toList :=
    ⟨⟨"table 1 A\n\x7b\n".toList, "  ".toList, by decide,
      Or.inr ⟨"table 1 A\n\x7b".toList, by decide⟩, List.all_eq_true.mp (by decide)⟩,
        Or.inr ⟨_, rfl⟩⟩
  refine ⟨(object_of_blanked_comment 64 hBlock).1 ⟨by decide +kernel, by decide +kernel⟩, ?_⟩
  exact (object_of_blanked_comment 64 hLine).2 hOwn (fun h => absurd h (by decide)) (by decide +kernel)

/-- Behind a header, on its line, a comment is part of the name. -/
theorem object_of_comment_behind_header :
    Text.IsComment "table 1 A ".toList "// x".toList "\n\x7b\n\x7d".toList ∧
      (Parse.text 64
        ("table 1 A ".toList ++ ("// x".toList ++ "\n\x7b\n\x7d".toList))).object.withoutSources ≠
          (Parse.text 64 ("table 1 A ".toList ++
            (Text.blanked "// x".toList ++ "\n\x7b\n\x7d".toList))).object.withoutSources := by
  refine ⟨.line (by decide) (by decide) (Or.inr ⟨_, rfl⟩), fun h => ?_⟩
  have hName := congrArg (fun object => object.header.name) h
  exact absurd hName (by decide +kernel)

end Parse
end ObjectOutline
