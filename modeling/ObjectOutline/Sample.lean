import ObjectOutline.Parse

/-! Sample sources, one for each kind of object that readers of this library meet. -/
namespace ObjectOutline

/-- A source with the name of its file. -/
structure Sample where
  fileName : String
  source : String

namespace Sample

/-- A source from its lines. Each of them ends in a line break. -/
def ofLines (fileName : String) (lines : List String) : Sample :=
  ⟨fileName, String.join (lines.map (· ++ "\n"))⟩

/-- A table with fields, keys, field groups, a trigger and a comment. -/
def customerTable : Sample :=
  ofLines "customer_table.al" [
    "table 50100 \"Loyalty Customer\"",
    "\x7b",
    "    Caption = 'Loyalty Customer';",
    "    DataClassification = CustomerContent;",
    "    LookupPageId = \"Loyalty Customer List\";",
    "",
    "    fields",
    "    \x7b",
    "        field(1; \"No.\"; Code[20])",
    "        \x7b",
    "            Caption = 'No.';",
    "            NotBlank = true;",
    "",
    "            trigger OnValidate()",
    "            begin",
    "                if \"No.\" <> xRec.\"No.\" then",
    "                    \"Search Name\" := '';",
    "            end;",
    "        \x7d",
    "        field(2; Name; Text[100])",
    "        \x7b",
    "            Caption = 'Customer''s Name', Comment = 'Display name';",
    "        \x7d",
    "        field(3; \"Search Name\"; Code[100])",
    "        \x7b",
    "            CaptionML = ENU='Search Name',DEU='Suchbegriff';",
    "        \x7d",
    "        field(10; \"Points Balance\"; Decimal)",
    "        \x7b",
    "            // Sum of ledger entries \x7b not a region \x7d",
    "            FieldClass = FlowField;",
    "            CalcFormula = sum(\"Loyalty Entry\".Points where(\"Customer No.\" = field(\"No.\")));",
    "            Editable = false;",
    "        \x7d",
    "    \x7d",
    "",
    "    keys",
    "    \x7b",
    "        key(PK; \"No.\")",
    "        \x7b",
    "            Clustered = true;",
    "        \x7d",
    "        key(SearchKey; \"Search Name\", Name)",
    "        \x7b",
    "        \x7d",
    "    \x7d",
    "",
    "    fieldgroups",
    "    \x7b",
    "        fieldgroup(DropDown; \"No.\", Name)",
    "        \x7b",
    "        \x7d",
    "    \x7d",
    "\x7d"]

/-- A card page with nested groups, a part and actions. -/
def customerCard : Sample :=
  ofLines "customer_card.al" [
    "page 50101 \"Loyalty Customer Card\"",
    "\x7b",
    "    PageType = Card;",
    "    SourceTable = \"Loyalty Customer\";",
    "    Caption = 'Loyalty Customer Card';",
    "",
    "    layout",
    "    \x7b",
    "        area(content)",
    "        \x7b",
    "            group(General)",
    "            \x7b",
    "                Caption = 'General';",
    "",
    "                field(\"No.\"; Rec.\"No.\")",
    "                \x7b",
    "                    ApplicationArea = All;",
    "                \x7d",
    "                field(Name; Rec.Name)",
    "                \x7b",
    "                    ApplicationArea = All;",
    "                \x7d",
    "                field(\"Search Name\"; Rec.\"Search Name\")",
    "                \x7b",
    "                    ApplicationArea = All;",
    "                    Caption = 'Search';",
    "                \x7d",
    "            \x7d",
    "            group(Points)",
    "            \x7b",
    "                field(\"Points Balance\"; Rec.\"Points Balance\")",
    "                \x7b",
    "                    ApplicationArea = All;",
    "                \x7d",
    "                field(Blocked; Rec.Blocked)",
    "                \x7b",
    "                    ApplicationArea = All;",
    "                \x7d",
    "            \x7d",
    "            part(Entries; \"Loyalty Entries Part\")",
    "            \x7b",
    "                SubPageLink = \"Customer No.\" = field(\"No.\");",
    "            \x7d",
    "        \x7d",
    "    \x7d",
    "",
    "    actions",
    "    \x7b",
    "        area(processing)",
    "        \x7b",
    "            action(Recalculate)",
    "            \x7b",
    "                Caption = 'Recalculate Points';",
    "                Image = Calculate;",
    "",
    "                trigger OnAction()",
    "                begin",
    "                    Rec.Recalculate();",
    "                end;",
    "            \x7d",
    "            action(Block)",
    "            \x7b",
    "                Image = Cancel;",
    "            \x7d",
    "        \x7d",
    "    \x7d",
    "\x7d"]

/-- A code unit, which has no symbol of its own. -/
def postingCodeunit : Sample :=
  ofLines "posting_codeunit.al" [
    "codeunit 50102 \"Loyalty Posting\"",
    "\x7b",
    "    Permissions = tabledata \"Loyalty Entry\" = rimd;",
    "",
    "    procedure Post(CustomerNo: Code[20]; Points: Decimal)",
    "    var",
    "        Entry: Record \"Loyalty Entry\";",
    "    begin",
    "        Entry.Init();",
    "        Entry.\"Customer No.\" := CustomerNo;",
    "        Entry.Points := Points;",
    "        Entry.Insert(true);",
    "    end;",
    "\x7d"]

/-- A table that lacks its last closing brace. -/
def unbalancedTable : Sample :=
  ofLines "unbalanced_table.al" [
    "table 50103 \"Loyalty Entry\"",
    "\x7b",
    "    DataClassification = CustomerContent;",
    "",
    "    fields",
    "    \x7b",
    "        field(1; \"Entry No.\"; Integer)",
    "        \x7b",
    "            AutoIncrement = true;",
    "        \x7d",
    "        field(2; \"Customer No.\"; Code[20])",
    "        \x7b",
    "        \x7d",
    "    \x7d"]

/-- An extension of a page. -/
def customerCardExtension : Sample :=
  ofLines "customer_card_ext.al" [
    "pageextension 50104 \"Customer Card Loyalty\" extends \"Customer Card\"",
    "\x7b",
    "    layout",
    "    \x7b",
    "        addlast(General)",
    "        \x7b",
    "            field(\"Loyalty Points\"; Rec.\"Loyalty Points\")",
    "            \x7b",
    "                ApplicationArea = All;",
    "            \x7d",
    "        \x7d",
    "    \x7d",
    "\x7d"]

/-- Every sample. -/
def all : List Sample :=
  [customerTable, customerCard, postingCodeunit, unbalancedTable, customerCardExtension]

/-- The sample of that file name. -/
def find? (fileName : String) : Option Sample :=
  all.find? fun sample => sample.fileName == fileName

/-- The first object of a sample. -/
def parse (sample : Sample) : Parsed :=
  Parse.text Region.defaultMaxDepth sample.source.toList

end Sample
end ObjectOutline
