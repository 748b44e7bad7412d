import DesignMarkup.Proofs.Import.Binding
import DesignMarkup.Proofs.Json.Compact
import DesignMarkup.Proofs.Layer.Positioning
import DesignMarkup.Proofs.Layer.WithoutHidden
import DesignMarkup.Proofs.Lists
/-!
What is left of hidden layers in a run that drops them. Their elements are gone, but the layer above
still counts them as its children: an image with hidden layers on it is a container, a container is
positioned for them and clips them, and an image asset tells how many it is made of. A design shows no
other trace of them.
-/
namespace DesignMarkup

namespace Layer

section
variable {c : Config} {l : Layer} (form : l.withoutHidden.form c = l.form c)
include form

end

section
variable {c : Config} (drops : c.dropInvisible = true)
include drops

end

end Layer

section
variable {c : Config} (drops : c.dropInvisible = true) (root : Layer)
include drops

end

end DesignMarkup
