import Pagewright.Detection.Signature

/-!
The signatures that come with the library: what a project site may contain and which components of the
target platform can take its place.
-/

namespace Pagewright.Detection

/-- A candidate of the packaged table. -/
def packagedCandidate (slug name provider type pricing : String) (compatibility : Int)
    (features : List String) (method : String) : Candidate :=
  ⟨slug, .str name, .str provider, .str type, .str pricing, compatibility, features.map .str,
    .str method, false, false⟩

def formsSignature : Signature :=
  ⟨"forms", .str "Contact Forms",
    ["react-hook-form", "<form", "onSubmit", "formik", "zod"],
    [packagedCandidate "elementor-pro" "Elementor Pro Forms" "Elementor"
        "native" "premium" 95 ["Form widget", "Email actions", "Webhooks"]
        "elementor_form_widget",
      packagedCandidate "contact-form-7" "Contact Form 7" "Takayuki Miyoshi"
        "plugin" "free" 80 ["Shortcode forms", "Mail templates"]
        "cf7_shortcode",
      packagedCandidate "wpforms-lite" "WPForms Lite" "WPForms"
        "plugin" "free" 85 ["Drag and drop builder", "Spam protection"]
        "wpforms_shortcode"]⟩

def popupModalSignature : Signature :=
  ⟨"popup_modal", .str "Popups & Modals",
    ["Dialog", "Modal", "@radix-ui/react-dialog", "AlertDialog"],
    [packagedCandidate "elementor-pro" "Elementor Pro Popup Builder" "Elementor"
        "native" "premium" 95 ["Popup builder", "Display conditions", "Triggers"]
        "elementor_popup",
      packagedCandidate "popup-maker" "Popup Maker" "Code Atlantic"
        "plugin" "free" 80 ["Popup triggers", "Cookies"]
        "popup_maker_shortcode",
      packagedCandidate "custom_html" "Custom HTML Modal" "l2wp"
        "native" "free" 60 ["Raw markup"]
        "html_widget"]⟩

def animationsSignature : Signature :=
  ⟨"animations", .str "Animations",
    ["framer-motion", "animate-", "@keyframes", "motion.", "transition"],
    [packagedCandidate "custom_animations" "Lovable Animations" "l2wp"
        "native" "free" 90 ["Scroll triggered entrances", "Delay and duration controls"]
        "lovable_animation_attributes",
      packagedCandidate "elementor-pro" "Elementor Pro Motion Effects" "Elementor"
        "native" "premium" 85 ["Motion effects", "Entrance animations"]
        "elementor_motion_effects",
      packagedCandidate "insert-headers-and-footers" "WPCode" "WPCode"
        "plugin" "free" 70 ["Custom JavaScript snippets"]
        "wpcode_snippet",
      packagedCandidate "animate-it" "Animate It!" "Eleopard"
        "plugin" "free" 60 ["CSS animation classes"]
        "animate_it_classes"]⟩

def slidersSignature : Signature :=
  ⟨"sliders", .str "Sliders & Carousels",
    ["Carousel", "embla-carousel", "swiper", "Slider"],
    [packagedCandidate "elementor" "Elementor Image Carousel" "Elementor"
        "native" "free" 80 ["Image carousel widget"]
        "elementor_carousel",
      packagedCandidate "smart-slider-3" "Smart Slider 3" "Nextend"
        "plugin" "free" 85 ["Slide builder", "Layers"]
        "smart_slider_shortcode"]⟩

def tabsAccordionSignature : Signature :=
  ⟨"tabs_accordion", .str "Tabs & Accordions",
    ["Accordion", "TabsList", "@radix-ui/react-tabs", "@radix-ui/react-accordion"],
    [packagedCandidate "elementor" "Elementor Tabs / Accordion" "Elementor"
        "native" "free" 90 ["Tabs widget", "Accordion widget", "Toggle widget"]
        "elementor_tabs"]⟩

def filtersSignature : Signature :=
  ⟨"filters", .str "Search & Filters",
    ["filter(", "useSearchParams", "SearchInput", "@tanstack/react-table"],
    [packagedCandidate "search-filter" "Search & Filter" "Designs & Code"
        "plugin" "free" 75 ["Taxonomy filters", "AJAX results"]
        "search_filter_shortcode",
      packagedCandidate "jet-smart-filters" "JetSmartFilters" "Crocoblock"
        "plugin" "premium" 85 ["Elementor filter widgets", "Listing integration"]
        "jet_filters_widget"]⟩

def customFieldsSignature : Signature :=
  ⟨"custom_fields", .str "Dynamic Content & Custom Fields",
    ["useQuery", "@supabase/supabase-js", "fetch(", "\x7b\x7bacf.", "\x7b\x7bjet.", "\x7b\x7bmb."],
    [packagedCandidate "advanced-custom-fields" "Advanced Custom Fields" "WP Engine"
        "plugin" "free" 90 ["Field groups", "Dynamic tags"]
        "acf_dynamic_tags",
      packagedCandidate "jet-engine" "JetEngine" "Crocoblock"
        "plugin" "premium" 85 ["Custom post types", "Listings", "Meta boxes"]
        "jet_dynamic_tags",
      packagedCandidate "meta-box" "Meta Box" "MetaBox.io"
        "plugin" "free" 80 ["Custom fields", "REST support"]
        "metabox_dynamic_tags"]⟩

def ecommerceSignature : Signature :=
  ⟨"ecommerce", .str "E-commerce",
    ["addToCart", "useCart", "checkout", "@stripe/stripe-js"],
    [packagedCandidate "woocommerce" "WooCommerce" "Automattic"
        "plugin" "free" 90 ["Products", "Cart", "Checkout"]
        "woocommerce_blocks"]⟩

def iconsSignature : Signature :=
  ⟨"icons", .str "Icon Library",
    ["lucide-react", "react-icons", "@heroicons"],
    [packagedCandidate "elementor" "Elementor Icon Widget" "Elementor"
        "native" "free" 85 ["Font Awesome icons", "SVG upload"]
        "elementor_icon_widget"]⟩

/-- The packaged table. -/
def packagedSignatures : Signatures :=
  [formsSignature,
    popupModalSignature,
    animationsSignature,
    slidersSignature,
    tabsAccordionSignature,
    filtersSignature,
    customFieldsSignature,
    ecommerceSignature,
    iconsSignature].map
    fun signature => (signature.key, signature)

/-- The signatures in a file, or the packaged ones where no file is named. -/
def signaturesAt (files : FileTree) (path : Option Path) : Except Failure Signatures :=
  match path with
  | some path => loadSignatures files path
  | none => .ok packagedSignatures

end Pagewright.Detection
