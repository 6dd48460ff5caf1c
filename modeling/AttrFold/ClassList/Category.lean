import AttrFold.ClassList.Token

/-!
What a class name styles. The category of a name is decided by how the name begins; a name with a
variant, such as `hover:` or `md:`, is grouped by that instead.
-/

namespace AttrFold.ClassList

/-- What a class name styles. -/
inductive Category where
  | positioning
  | display
  | flexGrid
  | boxModel
  | typography
  | visual
  | transforms
  | transitions
  | interactivity
  | others
deriving DecidableEq

namespace Category

/-- The categories in the order in which their lines are written. -/
def all : List Category := [
  positioning, display, flexGrid, boxModel, typography, visual, transforms, transitions,
  interactivity, others]

/-- How the names of a category begin. -/
def beginnings : Category → List Text
  | positioning => [
    "static", "relative", "absolute", "fixed", "sticky", "top-", "right-", "bottom-", "left-", "z-",
    "inset-"]
  | display => ["block", "inline", "flex", "grid", "hidden", "table", "flow-"]
  | flexGrid => [
    "flex-", "grid-", "justify-", "items-", "content-", "self-", "place-", "gap-", "space-",
    "order-"]
  | boxModel => [
    "container", "box-", "w-", "h-", "min-", "max-", "p-", "px-", "py-", "pt-", "pb-", "pl-", "pr-",
    "m-", "mx-", "my-", "mt-", "mb-", "ml-", "mr-", "overflow-", "aspect-"]
  | typography => [
    "font-", "text-", "leading-", "tracking-", "align-", "whitespace-", "break-", "hyphens-",
    "line-clamp", "truncate", "italic", "underline", "uppercase", "lowercase", "capitalize",
    "normal-case", "decoration-"]
  | visual => [
    "bg-", "from-", "via-", "to-", "gradient-", "border", "rounded", "shadow", "opacity-", "mix-",
    "backdrop-"]
  | transforms => ["scale-", "rotate-", "translate-", "skew-", "transform", "origin-"]
  | transitions => ["transition", "duration-", "ease-", "delay-", "animate-"]
  | interactivity => [
    "cursor-", "select-", "resize-", "appearance-", "pointer-events-", "touch-"]
  | others => []

/-- Whether a class name begins as the names of a category do. -/
def claims (c : Category) (name : Text) : Bool := c.beginnings.any (·.isPrefixOf name)

/-- The category of a class name: the first one whose names begin as it does. Display comes before
the flex and grid properties, so `flex-col` stays beside `flex`. -/
def of (name : Text) : Category := (all.find? (·.claims name)).getD others

end Category

/-- Whether a class name has a variant. -/
def hasVariant (name : Text) : Bool := name.contains ':'

/-- The variant of a class name: all up to its first colon, and a colon. -/
def variant (name : Text) : Text := name.takeWhile (· ≠ ':') ++ [':']

end AttrFold.ClassList
