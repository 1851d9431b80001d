import Pagewright.Placeholder.Token

/-!
Placeholders in the terms of the page builder: a shortcode for a dynamic tag, and the widget that shows
a field of a given type.
-/

namespace Pagewright.Design

/-- A dynamic tag with settings of one key. -/
def settingsTag (id name key field : String) : String :=
  s!"[elementor-tag id=\"{id}\" name=\"{name}\" settings='\x7b\"{key}\":\"{field}\"\x7d']"

/-- The dynamic tag of the first placeholder of a text; a text without a known one is its own. -/
def dynamicTag (text : String) : String :=
  match Placeholder.first? text with
  | none => text
  | some ⟨space, field⟩ =>
    if space == "acf" then settingsTag "acf" "acf-field" "key" field
    else if space == "jet" then settingsTag "jet" "jet-field" "field" field
    else if space == "mb" then settingsTag "metabox" "metabox-field" "key" field
    else if space == "post" then s!"[elementor-tag id=\"post\" name=\"post-{field}\"]"
    else if space == "taxonomy" then settingsTag "taxonomy" "taxonomy" "taxonomy" field
    else text

/-- A widget of a type with one setting that is filled in when the page is shown. -/
def dynamicWidget (widgetType setting tag : String) : Value :=
  .object [("widgetType", .str widgetType),
    ("settings", .object [("dynamic", .object [(setting, .str tag)])])]

/-- The widget for a lone placeholder, chosen by the type of its field. -/
def placeholderWidget? (text fieldType : String) : Option Value :=
  (Placeholder.first? text).map fun _ =>
    let tag := dynamicTag text
    if fieldType == "image" then dynamicWidget "image" "image" tag
    else if fieldType == "wysiwyg" || fieldType == "textarea" then
      dynamicWidget "text-editor" "editor" tag
    else if fieldType == "url" || fieldType == "link" then dynamicWidget "button" "link" tag
    else .object [("widgetType", .str "text-editor"), ("settings", .object [("editor", .str tag)])]

end Pagewright.Design
