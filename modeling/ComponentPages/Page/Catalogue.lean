import ComponentPages.Project.Path
import ComponentPages.Text.LowerCase

namespace ComponentPages

/-!
# The catalogue

Prose for pages that no source gives: categories of directories, and for well-known components
their tags, descriptions, related components and notes on accessibility.
-/

namespace Catalogue

def categories : List (String × String) :=
  [("ui", "UI Primitives"),
   ("primitives", "UI Primitives"),
   ("forms", "Forms"),
   ("form", "Forms"),
   ("layout", "Layout"),
   ("navigation", "Navigation"),
   ("nav", "Navigation"),
   ("feedback", "Feedback"),
   ("data-display", "Data Display"),
   ("display", "Data Display"),
   ("overlay", "Overlays"),
   ("overlays", "Overlays"),
   ("typography", "Typography")]

def tags : List (String × List String) :=
  [("Button", ["action", "interactive", "form"]),
   ("Input", ["form", "text", "interactive"]),
   ("Textarea", ["form", "text", "multiline"]),
   ("Select", ["form", "choice", "interactive"]),
   ("Checkbox", ["form", "boolean", "interactive"]),
   ("Switch", ["form", "boolean", "toggle"]),
   ("RadioGroup", ["form", "choice"]),
   ("Label", ["form", "text"]),
   ("Dialog", ["overlay", "modal", "focus-trap"]),
   ("Popover", ["overlay", "floating"]),
   ("Tooltip", ["overlay", "hint"]),
   ("Card", ["layout", "container"]),
   ("Badge", ["status", "label"]),
   ("Alert", ["feedback", "status"]),
   ("Tabs", ["navigation", "disclosure"]),
   ("Avatar", ["media", "identity"])]

/-- The descriptions of well-known components. -/
def descriptions : List (String × String) :=
  [("Button", "Triggers an action or event, such as submitting a form or opening a dialog."),
   ("Input", "A single-line text field for user input."),
   ("Textarea", "A multi-line text field for longer user input."),
   ("Select", "Lets users pick one value from a list of options."),
   ("Checkbox", "A control that toggles between checked and unchecked."),
   ("Switch", "A toggle between two mutually exclusive states."),
   ("RadioGroup", "A set of options where only one can be selected."),
   ("Label", "Renders an accessible label associated with a control."),
   ("Dialog", "A window overlaid on the primary content that interrupts the user."),
   ("Popover", "Displays rich content in a portal, anchored to a trigger."),
   ("Tooltip", "A short hint shown when an element receives hover or keyboard focus."),
   ("Card", "Groups related content and actions in a contained surface."),
   ("Badge", "A small label for status, counts or categorisation."),
   ("Alert", "Displays a callout for important, non-interruptive messages."),
   ("Tabs", "Layered sections of content, shown one panel at a time."),
   ("Avatar", "An image element with a fallback for representing a user.")]

/-- The components related to well-known components. -/
def related : List (String × List String) :=
  [("Button", ["Dialog", "Tooltip"]),
   ("Input", ["Label", "Textarea", "Select"]),
   ("Textarea", ["Input", "Label"]),
   ("Select", ["Input", "RadioGroup"]),
   ("Checkbox", ["Switch", "RadioGroup", "Label"]),
   ("Switch", ["Checkbox", "Label"]),
   ("RadioGroup", ["Checkbox", "Select"]),
   ("Label", ["Input", "Checkbox"]),
   ("Dialog", ["Popover", "Button"]),
   ("Popover", ["Dialog", "Tooltip"]),
   ("Tooltip", ["Popover", "Button"]),
   ("Card", ["Badge", "Avatar"]),
   ("Badge", ["Card", "Alert"]),
   ("Alert", ["Badge", "Dialog"]),
   ("Tabs", ["Card"]),
   ("Avatar", ["Card", "Badge"])]

/-- The notes on the accessibility of well-known components. -/
def accessibility : List (String × List String) :=
  [("Button",
    ["Rendered as a native `button`, so Enter and Space activate it.",
     "Give icon-only buttons an `aria-label`."]),
   ("Input",
    ["Pair with a `Label` or provide an `aria-label`.",
     "Expose validation errors with `aria-invalid` and `aria-describedby`."]),
   ("Checkbox",
    ["Toggles with Space.",
     "Announces checked, unchecked and indeterminate states."]),
   ("Switch",
    ["Uses `role=\x22switch\x22` and toggles with Space and Enter."]),
   ("Dialog",
    ["Focus is trapped inside while open and restored on close.",
     "Escape closes the dialog.",
     "Provide a title so the dialog is announced."]),
   ("Tooltip",
    ["Opens on keyboard focus as well as hover.",
     "Keep content short and never place interactive elements inside."]),
   ("Tabs",
    ["Arrow keys move between tabs, Tab moves into the active panel."])]

/-- What a table says about a name. -/
def about? {α : Type} (table : List (String × α)) (name : Text) : Option α :=
  (table.find? fun (known, _) => known.toList == name).map (·.2)

/-- The category of a component: that of the nearest directory that names one. -/
def categoryOf (path : Path) : Text :=
  let directories := (path.parent?.map Path.components).getD []
  let category := directories.reverse.findSome? fun directory =>
    about? categories directory.text.toAsciiLowerCase
  (category.getD "General").toList

def tagsOf (name : Text) : List Text :=
  ((about? tags name).getD ["component"]).map String.toList

def descriptionOf (name : Text) : Text :=
  match about? descriptions name with
  | some description => description.toList
  | none => "A reusable ".toList ++ name ++ " component.".toList

def relatedTo (name : Text) : List Text :=
  ((about? related name).getD []).map String.toList

/-- The notes on the accessibility of a component. -/
def accessibilityOf (name : Text) : List Text :=
  let common :=
    ["Follows WAI-ARIA authoring practices for keyboard and screen reader support."]
  ((about? accessibility name).getD common).map String.toList

end Catalogue

end ComponentPages
