import PromptStudio.Catalog.Definition

/-!
# The built-in catalog

The catalog that is used where no file is given, and the fixed instructions that every prompt carries.
-/

namespace PromptStudio

def systemInstructions : String := "\n".intercalate [
  "You are a creative visual prompt generator. Follow these guidelines:",
  "",
  "QUALITY STANDARDS:",
  "- Be specific and detailed in visual descriptions",
  "- Use concrete, observable details rather than abstract concepts",
  "- Include lighting, atmosphere, and mood when relevant",
  "- Specify camera angles and compositional elements",
  "- Reference real-world materials, textures, and techniques",
  "",
  "STYLE GUIDELINES:",
  "- Maintain consistency in aesthetic choices",
  "- Layer details from general to specific",
  "- Use professional terminology appropriate to the medium",
  "- Avoid conflicting or contradictory instructions",
  "- Balance creativity with technical precision",
  "",
  "OUTPUT FORMAT:",
  "- Write in clear, comma-separated phrases",
  "- Progress from subject to environment to style",
  "- End with technical parameters when applicable",
  "- Keep total length appropriate for the target model"]

namespace CatalogData

def presetProfiles : List Profile := [
  { id := "midjourney_v6"
    name := "Midjourney V6"
    basePrompt := "Create a highly detailed, professional quality image with cinematic composition."
    preferredOrder := [.subject, .style, .camera, .layout, .postfx, .constraint]
    forbiddenPatterns := ["nsfw", "gore", "violence"]
    maxLength := 2000
    capabilities := ["photorealistic", "artistic", "stylized"] },
  { id := "dalle_3"
    name := "DALL-E 3"
    basePrompt := "Generate a visually striking image with careful attention to detail and artistic quality."
    preferredOrder := [.subject, .layout, .style, .camera, .constraint, .postfx]
    forbiddenPatterns := ["nsfw", "gore"]
    maxLength := 4000
    capabilities := ["photorealistic", "illustration", "3d"] },
  { id := "sdxl"
    name := "Stable Diffusion XL"
    basePrompt := "A masterfully crafted image demonstrating exceptional technical and artistic quality."
    preferredOrder := [.subject, .style, .postfx, .camera, .layout, .constraint]
    forbiddenPatterns := []
    maxLength := 1500
    capabilities := ["photorealistic", "anime", "artistic"] },
  { id := "flux_pro"
    name := "Flux Pro"
    basePrompt := "Ultra high quality, professional grade imagery with exceptional detail and composition."
    preferredOrder := [.subject, .camera, .style, .layout, .postfx, .constraint]
    forbiddenPatterns := ["nsfw"]
    maxLength := 2500
    capabilities := ["photorealistic", "cinematic", "editorial"] }]

def presetBlueprints : List Blueprint := [
  { id := "minecraft_food"
    name := "Minecraft Style Food"
    category := "gaming"
    description := "Pixel-art food items with a Minecraft look, blocky textures and vivid colors"
    blocks := ["pixelart_base", "food_subject", "minecraft_lighting", "game_ui_frame"]
    constraints := ["maintain_blocky_aesthetic", "no_smooth_gradients"]
    previewDescription := some "8-bit inspired food photography" },
  { id := "analog_collage_fridge"
    name := "Analog Collage Refrigerator"
    category := "retro"
    description := "Vintage collage look with fridge magnets and magazine cut-outs"
    blocks := ["collage_base", "vintage_texture", "magnet_elements", "paper_cutout"]
    constraints := ["visible_paper_edges", "imperfect_alignment"]
    previewDescription := some "70s magazine cut-out collage" },
  { id := "gothic_car_wrap"
    name := "Gothic Car Wrap"
    category := "aesthetic"
    description := "Dark gothic patterns applied to vehicle wraps"
    blocks := ["gothic_pattern", "vehicle_surface", "dark_lighting", "ornate_details"]
    constraints := ["seamless_pattern", "vehicle_contour_respect"]
    previewDescription := some "Dark ornamental vehicle design" },
  { id := "weightless_phone_photo"
    name := "Weightless Phone Photo"
    category := "aesthetic"
    description := "Floating objects shot with a zero-gravity smartphone look"
    blocks := ["floating_objects", "smartphone_camera", "soft_shadows", "clean_background"]
    constraints := ["natural_lighting", "physics_defying_but_believable"]
    previewDescription := some "Levitating product photography" },
  { id := "lookbook_9_frame"
    name := "Lookbook 9-Frame"
    category := "fashion"
    description := "Fashion lookbook grid with nine coordinated poses"
    blocks := ["grid_layout_9", "fashion_poses", "editorial_lighting", "minimal_background"]
    constraints := ["consistent_model", "cohesive_color_palette"]
    previewDescription := some "3x3 editorial fashion grid" },
  { id := "cctv_detection"
    name := "CCTV Detection"
    category := "surveillance"
    description := "Security camera footage with detection overlays and timestamps"
    blocks := ["cctv_camera", "detection_overlay", "timestamp_hud", "grainy_texture"]
    constraints := ["fixed_camera_angle", "low_quality_authentic"]
    previewDescription := some "Security footage look" },
  { id := "mspaint_screen"
    name := "MS Paint Screen"
    category := "retro"
    description := "Classic Windows Paint interface with amateur digital art"
    blocks := ["mspaint_interface", "crude_drawing", "limited_palette", "aliased_edges"]
    constraints := ["16_color_maximum", "no_antialiasing"]
    previewDescription := some "Windows 95 Paint look" },
  { id := "character_creator"
    name := "Character Creator Screen"
    category := "ui"
    description := "Video game character creation screen with sliders and options"
    blocks := ["ui_panels", "character_turntable", "customization_sliders", "stat_display"]
    constraints := ["game_ui_consistency", "readable_interface"]
    previewDescription := some "RPG customization interface" },
  { id := "ig_realistic_ugc"
    name := "IG Realistic UGC"
    category := "ugc"
    description := "Ultra-realistic Instagram Story selfie with handheld look and lo-fi texture"
    blocks := ["ig_story_base", "ig_framing_selfie", "ig_story_aesthetic", "ig_appearance_neutral",
      "ig_accessory_details"]
    constraints := ["no_text_stickers", "raw_story_only"]
    previewDescription := some "Authentic IG Story selfie" }]

def presetBlocks : List Block := [
  { key := "pixelart_base"
    label := "Pixel Art Base"
    template := "pixel art style, 8-bit aesthetic, visible blocky pixels"
    type := .style },
  { key := "food_subject"
    label := "Food Subject"
    template := "\x7bsubject\x7d, appetizing presentation, food photography"
    type := .subject },
  { key := "minecraft_lighting"
    label := "Minecraft Lighting"
    template := "flat shading, ambient occlusion, game-style lighting"
    type := .postfx },
  { key := "game_ui_frame"
    label := "Game UI Frame"
    template := "inventory slot frame, game interface border"
    type := .layout },
  { key := "collage_base"
    label := "Collage Base"
    template := "cut paper collage, layered elements, mixed media"
    type := .style },
  { key := "vintage_texture"
    label := "Vintage Texture"
    template := "aged paper texture, slight yellowing, worn edges"
    type := .postfx },
  { key := "magnet_elements"
    label := "Magnet Elements"
    template := "fridge magnets, letter magnets, magnetic clips"
    type := .subject },
  { key := "paper_cutout"
    label := "Paper Cutout"
    template := "magazine cut-outs, scissor edges, visible glue"
    type := .style },
  { key := "gothic_pattern"
    label := "Gothic Pattern"
    template := "intricate gothic patterns, dark ornamental design, cathedral inspired"
    type := .style },
  { key := "vehicle_surface"
    label := "Vehicle Surface"
    template := "\x7bsubject\x7d body wrap, vehicle contours, automotive surface"
    type := .subject },
  { key := "dark_lighting"
    label := "Dark Lighting"
    template := "dramatic low-key lighting, deep shadows, somber atmosphere"
    type := .camera },
  { key := "ornate_details"
    label := "Ornate Details"
    template := "filigree patterns, baroque elements, detailed embellishments"
    type := .style },
  { key := "floating_objects"
    label := "Floating Objects"
    template := "\x7bsubject\x7d levitating, zero gravity, suspended in the air"
    type := .subject },
  { key := "smartphone_camera"
    label := "Smartphone Camera"
    template := "smartphone photography, mobile camera quality, casual framing, \x7bcamera_bias\x7d"
    type := .camera },
  { key := "soft_shadows"
    label := "Soft Shadows"
    template := "soft diffused shadows, gentle light falloff"
    type := .postfx },
  { key := "clean_background"
    label := "Clean Background"
    template := "minimalist background, solid color backdrop, studio setting"
    type := .layout },
  { key := "grid_layout_9"
    label := "9-Frame Grid"
    template := "3x3 grid layout, nine equal frames, consistent spacing, \x7blayout_entropy\x7d"
    type := .layout },
  { key := "fashion_poses"
    label := "Fashion Poses"
    template := "\x7bsubject\x7d in editorial poses, fashion model posture, professional poses"
    type := .subject },
  { key := "editorial_lighting"
    label := "Editorial Lighting"
    template := "fashion photography lighting, beauty dish, rim light"
    type := .camera },
  { key := "minimal_background"
    label := "Minimal Background"
    template := "clean background, seamless paper, neutral tones"
    type := .layout },
  { key := "cctv_camera"
    label := "CCTV Camera"
    template := "security camera view of \x7benvironment\x7d, wide angle distortion, high angle"
    type := .camera },
  { key := "detection_overlay"
    label := "Detection Overlay"
    template := "bounding boxes around \x7bitems\x7d, tracking indicators, detection markers"
    type := .postfx },
  { key := "timestamp_hud"
    label := "Timestamp HUD"
    template := "date and time overlay, camera ID, recording indicator"
    type := .postfx },
  { key := "grainy_texture"
    label := "Grainy Texture"
    template := "video noise, compression artifacts, low resolution"
    type := .postfx },
  { key := "mspaint_interface"
    label := "MS Paint Interface"
    template := "Windows 95 Paint interface, visible toolbar, canvas area"
    type := .layout },
  { key := "crude_drawing"
    label := "Crude Drawing"
    template := "amateur digital drawing of \x7bsubject\x7d, shaky lines, basic shapes"
    type := .style },
  { key := "limited_palette"
    label := "Limited Palette"
    template := "16 color palette, default Windows colors, basic tones"
    type := .style },
  { key := "aliased_edges"
    label := "Aliased Edges"
    template := "no anti-aliasing, jagged edges, pixel-perfect lines"
    type := .postfx },
  { key := "ui_panels"
    label := "UI Panels"
    template := "game interface panels, menu windows, option boxes"
    type := .layout },
  { key := "character_turntable"
    label := "Character Turntable"
    template := "\x7bsubject\x7d character preview, rotating view, 3D model display"
    type := .subject },
  { key := "customization_sliders"
    label := "Customization Sliders"
    template := "slider controls, adjustment bars, value indicators"
    type := .layout },
  { key := "stat_display"
    label := "Stat Display"
    template := "character stats, attribute values, skill numbers"
    type := .layout },
  { key := "ig_story_base"
    label := "IG Story Base"
    template :=
      "ultra-realistic handheld 9:16 vertical selfie, authentic IG-story style, slight motion blur, soft "
      ++ "lo-fi texture, warm indoor lighting, photorealistic skin texture, natural imperfections, "
      ++ "\x7bugc_realism\x7d"
    type := .style },
  { key := "ig_framing_selfie"
    label := "IG Selfie Framing"
    template :=
      "close-up vertical selfie filling most of the story frame, camera very close to the face, imperfect "
      ++ "handheld angle, relaxed casual pose, natural confident expression, direct eye contact"
    type := .camera },
  { key := "ig_story_aesthetic"
    label := "IG Story Aesthetic"
    template :=
      "IG-story realism, slightly variable exposure, shallow depth of field, subtle grain, softened "
      ++ "smartphone edges, no cinematic polish, authentic phone camera quality"
    type := .postfx },
  { key := "ig_appearance_neutral"
    label := "IG Neutral Appearance"
    template :=
      "photorealistic person, natural skin texture with pores and subtle imperfections, identity and "
      ++ "features defined only by the reference image, no stylization"
    type := .subject },
  { key := "ig_accessory_details"
    label := "IG Accessory Details"
    template :=
      "casual accessories as appropriate, natural clothing visible at the shoulders, softly blurred neutral "
      ++ "indoor background, authentic ambient lighting"
    type := .subject },
  { key := "no_text_stickers"
    label := "No Text/Stickers"
    template := "no on-screen text, no stickers, only the raw story-style selfie"
    type := .constraint },
  { key := "raw_story_only"
    label := "Raw Story Only"
    template := "authentic unedited story capture, no filters applied, no overlays"
    type := .constraint }]

/-- A schema that offers options. -/
def choice (options : List Text) : FilterSchema :=
  { type := "select", options, min := none, max := none }

def presetFilters : List Filter := [
  { key := "aesthetic_intensity"
    label := "Aesthetic Intensity"
    schema := choice ["low", "medium", "high", "extreme"]
    effect := [
      ("low", "subtle stylization"),
      ("medium", "moderate artistic enhancement"),
      ("high", "strong aesthetic treatment"),
      ("extreme", "maximum stylization, highly artistic")]
    isPremium := false },
  { key := "ugc_realism"
    label := "UGC Realism"
    schema := choice ["phone", "ugc", "pro", "cinematic"]
    effect := [
      ("phone", "smartphone quality, casual snapshot"),
      ("ugc", "user generated content look, authentic amateur"),
      ("pro", "professional photography quality"),
      ("cinematic", "cinema camera quality, film look")]
    isPremium := false },
  { key := "layout_entropy"
    label := "Layout Entropy"
    schema := choice ["strict", "balanced", "loose"]
    effect := [
      ("strict", "rigid composition, rule of thirds"),
      ("balanced", "harmonious arrangement, natural flow"),
      ("loose", "organic placement, creative chaos")]
    isPremium := false },
  { key := "camera_bias"
    label := "Camera Bias"
    schema := choice ["iphone", "cctv", "dslr", "camcorder_2000s", "modern"]
    effect := [
      ("iphone", "iPhone camera characteristics, portrait mode"),
      ("cctv", "security camera look, fisheye distortion"),
      ("dslr", "professional DSLR quality, shallow depth of field"),
      ("camcorder_2000s", "early 2000s camcorder, SD quality"),
      ("modern", "modern mirrorless camera, crisp digital sensor")]
    isPremium := false },
  { key := "temporal_style"
    label := "Temporal Style"
    schema := choice ["y2k", "2000s_jp_tv", "modern", "retro_future"]
    effect := [
      ("y2k", "Y2K aesthetic, early internet era"),
      ("2000s_jp_tv", "Japanese TV broadcast 2000s, variety show aesthetic"),
      ("modern", "contemporary clean aesthetic"),
      ("retro_future", "retrofuturism, vintage sci-fi")]
    isPremium := true },
  { key := "prompt_length"
    label := "Prompt Length"
    schema := choice ["short", "normal", "long"]
    effect := [
      ("short", "concise description"),
      ("normal", "standard detail level"),
      ("long", "extended detailed description")]
    isPremium := false }]

def presetBaseModels : List BaseModel := [
  { name := "sdxl_1.0"
    displayName := "Stable Diffusion XL 1.0"
    loraFormat := "safetensors"
    defaultResolution := 1024
    isActive := true },
  { name := "flux_pro"
    displayName := "Flux Pro"
    loraFormat := "safetensors"
    defaultResolution := 1024
    isActive := true },
  { name := "sd_1.5"
    displayName := "Stable Diffusion 1.5"
    loraFormat := "safetensors"
    defaultResolution := 512
    isActive := true }]

def preset : CatalogData :=
  { profiles := presetProfiles
    blueprints := presetBlueprints
    blocks := presetBlocks
    filters := presetFilters
    baseModels := presetBaseModels }

end CatalogData

end PromptStudio
