import ClassAtlas.Text.Case

/-!
Emoji codes: a name between colons, such as `:smile:`, stands for an emoji. The table pairs
each lower-case name with its emoji, ordered by name so that a name is found by halving.
-/

namespace ClassAtlas.Display

/-- The emoji of every code: a line per code, its name and its emoji separated by a tab, the lines ordered by name. -/
def emojiListing : String :=
  String.join [
    "+1\t👍\n-1\t👎\n100\t💯\n1234\t🔢\n1st_place_medal\t🥇\n2nd_place_medal\t🥈\n3rd_place_medal\t🥉\n8ball\t🎱\n__1\t👎\na\t🅰\na_button_(blood_type)\t🅰\nab\t🆎\nab_button_(blood_type)\t🆎\nabacus\t🧮\nabc\t🔤\nabcd\t🔡\naccept\t🉑\nadhesive_bandage\t🩹\nadmission_tickets\t🎟\nadult\t🧑\nadult_dark_skin_tone\t🧑🏿\nadult_light_skin_tone\t🧑🏻\nadult_medium-dark_skin_tone\t🧑🏾\nadult_medium-light_skin_tone\t🧑🏼\nadult_medium_skin_tone\t🧑🏽\naerial_tramway\t🚡\nafghanistan\t🇦🇫\nairplane\t✈\nairplane_arrival\t🛬\nairplane_arriving\t🛬\nairplane_departure\t🛫\nalarm_clock\t⏰\nalbania\t🇦🇱\nalembic\t⚗\nalgeria\t🇩🇿\nalien\t👽\nalien_monster\t👾\nambulance\t🚑\namerican_football\t🏈\namerican_samoa\t🇦🇸\namphora\t🏺\nanchor\t⚓\nandorra\t🇦🇩\nangel\t👼\nanger\t💢\nanger_symbol\t💢\nangola\t🇦🇴\nangry\t😠\nangry_face\t😠\nangry_face_with_horns\t👿\nanguilla\t🇦🇮\nanguished\t😧\nanguished_face\t😧\nant\t🐜\nantarctica\t🇦🇶\nantenna_bars\t📶\nantigua_&_barbuda\t🇦🇬\nanxious_face_with_sweat\t😰\napple\t🍎\naquarius\t♒\nargentina\t🇦🇷\naries\t♈\narmenia\t🇦🇲\narrow_backward\t◀\narrow_double_down\t⏬\narrow_double_up\t⏫\narrow_down\t⬇\narrow_down_small\t🔽\narrow_forward\t▶\n",
    "arrow_heading_down\t⤵\narrow_heading_up\t⤴\narrow_left\t⬅\narrow_lower_left\t↙\narrow_lower_right\t↘\narrow_right\t➡\narrow_right_hook\t↪\narrow_up\t⬆\narrow_up_down\t↕\narrow_up_small\t🔼\narrow_upper_left\t↖\narrow_upper_right\t↗\narrows_clockwise\t🔃\narrows_counterclockwise\t🔄\nart\t🎨\narticulated_lorry\t🚛\nartist_palette\t🎨\naruba\t🇦🇼\nascension_island\t🇦🇨\nastonished\t😲\nastonished_face\t😲\nathletic_shoe\t👟\natm\t🏧\natm_sign\t🏧\natom_symbol\t⚛\naustralia\t🇦🇺\naustria\t🇦🇹\nauto_rickshaw\t🛺\nautomobile\t🚗\navocado\t🥑\naxe\t🪓\nazerbaijan\t🇦🇿\nb\t🅱\nb_button_(blood_type)\t🅱\nbaby\t👶\nbaby_angel\t👼\nbaby_angel_dark_skin_tone\t👼🏿\nbaby_angel_light_skin_tone\t👼🏻\nbaby_angel_medium-dark_skin_tone\t👼🏾\nbaby_angel_medium-light_skin_tone\t👼🏼\nbaby_angel_medium_skin_tone\t👼🏽\nbaby_bottle\t🍼\nbaby_chick\t🐤\nbaby_dark_skin_tone\t👶🏿\nbaby_light_skin_tone\t👶🏻\nbaby_medium-dark_skin_tone\t👶🏾\nbaby_medium-light_skin_tone\t👶🏼\nbaby_medium_skin_tone\t👶🏽\nbaby_symbol\t🚼\nback\t🔙\nback_arrow\t🔙\nbackhand_index_pointing_down\t👇\nbackhand_index_pointing_down_dark_skin_tone\t👇🏿\n",
    "backhand_index_pointing_down_light_skin_tone\t👇🏻\nbackhand_index_pointing_down_medium-dark_skin_tone\t👇🏾\nbackhand_index_pointing_down_medium-light_skin_tone\t👇🏼\nbackhand_index_pointing_down_medium_skin_tone\t👇🏽\nbackhand_index_pointing_left\t👈\nbackhand_index_pointing_left_dark_skin_tone\t👈🏿\nbackhand_index_pointing_left_light_skin_tone\t👈🏻\nbackhand_index_pointing_left_medium-dark_skin_tone\t👈🏾\nbackhand_index_pointing_left_medium-light_skin_tone\t👈🏼\nbackhand_index_pointing_left_medium_skin_tone\t👈🏽\nbackhand_index_pointing_right\t👉\nbackhand_index_pointing_right_dark_skin_tone\t👉🏿\nbackhand_index_pointing_right_light_skin_tone\t👉🏻\nbackhand_index_pointing_right_medium-dark_skin_tone\t👉🏾\nbackhand_index_pointing_right_medium-light_skin_tone\t👉🏼\nbackhand_index_pointing_right_medium_skin_tone\t👉🏽\nbackhand_index_pointing_up\t👆\nbackhand_index_pointing_up_dark_skin_tone\t👆🏿\nbackhand_index_pointing_up_light_skin_tone\t👆🏻\nbackhand_index_pointing_up_medium-dark_skin_tone\t👆🏾\n",
    "backhand_index_pointing_up_medium-light_skin_tone\t👆🏼\nbackhand_index_pointing_up_medium_skin_tone\t👆🏽\nbacon\t🥓\nbadger\t🦡\nbadminton\t🏸\nbadminton_racquet_and_shuttlecock\t🏸\nbagel\t🥯\nbaggage_claim\t🛄\nbaguette_bread\t🥖\nbahamas\t🇧🇸\nbahrain\t🇧🇭\nbalance_scale\t⚖\nbald\t🦲\nbald_man\t👨‍🦲\nbald_woman\t👩‍🦲\nballet_shoes\t🩰\nballoon\t🎈\nballot_box_with_ballot\t🗳\nballot_box_with_check\t☑\nbamboo\t🎍\nbanana\t🍌\nbangbang\t‼\nbangladesh\t🇧🇩\nbanjo\t🪕\nbank\t🏦\nbar_chart\t📊\nbarbados\t🇧🇧\nbarber\t💈\nbarber_pole\t💈\nbaseball\t⚾\nbasket\t🧺\nbasketball\t🏀\nbat\t🦇\nbath\t🛀\nbathtub\t🛁\nbattery\t🔋\nbeach_with_umbrella\t🏖\nbeaming_face_with_smiling_eyes\t😁\nbear\t🐻\nbear_face\t🐻\nbearded_person\t🧔\nbearded_person_dark_skin_tone\t🧔🏿\nbearded_person_light_skin_tone\t🧔🏻\nbearded_person_medium-dark_skin_tone\t🧔🏾\nbearded_person_medium-light_skin_tone\t🧔🏼\nbearded_person_medium_skin_tone\t🧔🏽\nbeating_heart\t💓\nbed\t🛏\nbee\t🐝\nbeer\t🍺\nbeer_mug\t🍺\nbeers\t🍻\nbeetle\t🐞\nbeginner\t🔰\nbelarus\t🇧🇾\nbelgium\t🇧🇪\nbelize\t🇧🇿\nbell\t🔔\nbell_with_slash\t🔕\nbellhop_bell\t🛎\nbenin\t🇧🇯\nbento\t🍱\nbento_box\t🍱\nbermuda\t🇧🇲\nbeverage_box\t🧃\n",
    "bhutan\t🇧🇹\nbicycle\t🚲\nbicyclist\t🚴\nbike\t🚲\nbikini\t👙\nbilled_cap\t🧢\nbiohazard\t☣\nbiohazard_sign\t☣\nbird\t🐦\nbirthday\t🎂\nbirthday_cake\t🎂\nblack_circle\t⚫\nblack_circle_for_record\t⏺\nblack_flag\t🏴\nblack_heart\t🖤\nblack_joker\t🃏\nblack_large_square\t⬛\nblack_left__pointing_double_triangle_with_vertical_bar\t⏮\nblack_medium-small_square\t◾\nblack_medium_small_square\t◾\nblack_medium_square\t◼\nblack_nib\t✒\nblack_right__pointing_double_triangle_with_vertical_bar\t⏭\nblack_right__pointing_triangle_with_double_vertical_bar\t⏯\nblack_small_square\t▪\nblack_square_button\t🔲\nblack_square_for_stop\t⏹\nblond-haired_man\t👱‍♂️\nblond-haired_man_dark_skin_tone\t👱🏿‍♂️\nblond-haired_man_light_skin_tone\t👱🏻‍♂️\nblond-haired_man_medium-dark_skin_tone\t👱🏾‍♂️\nblond-haired_man_medium-light_skin_tone\t👱🏼‍♂️\nblond-haired_man_medium_skin_tone\t👱🏽‍♂️\nblond-haired_person\t👱\nblond-haired_person_dark_skin_tone\t👱🏿\nblond-haired_person_light_skin_tone\t👱🏻\nblond-haired_person_medium-dark_skin_tone\t👱🏾\nblond-haired_person_medium-light_skin_tone\t👱🏼\n",
    "blond-haired_person_medium_skin_tone\t👱🏽\nblond-haired_woman\t👱‍♀️\nblond-haired_woman_dark_skin_tone\t👱🏿‍♀️\nblond-haired_woman_light_skin_tone\t👱🏻‍♀️\nblond-haired_woman_medium-dark_skin_tone\t👱🏾‍♀️\nblond-haired_woman_medium-light_skin_tone\t👱🏼‍♀️\nblond-haired_woman_medium_skin_tone\t👱🏽‍♀️\nblossom\t🌼\nblowfish\t🐡\nblue_book\t📘\nblue_car\t🚙\nblue_circle\t🔵\nblue_heart\t💙\nblue_square\t🟦\nblush\t😊\nboar\t🐗\nboat\t⛵\nbolivia\t🇧🇴\nbomb\t💣\nbone\t🦴\nbook\t📖\nbookmark\t🔖\nbookmark_tabs\t📑\nbooks\t📚\nboom\t💥\nboot\t👢\nbosnia_&_herzegovina\t🇧🇦\nbotswana\t🇧🇼\nbottle_with_popping_cork\t🍾\nbouquet\t💐\nbouvet_island\t🇧🇻\nbow\t🙇\nbow_and_arrow\t🏹\nbowl_with_spoon\t🥣\nbowling\t🎳\nboxing_glove\t🥊\nboy\t👦\nboy_dark_skin_tone\t👦🏿\nboy_light_skin_tone\t👦🏻\nboy_medium-dark_skin_tone\t👦🏾\nboy_medium-light_skin_tone\t👦🏼\nboy_medium_skin_tone\t👦🏽\nbrain\t🧠\nbrazil\t🇧🇷\nbread\t🍞\nbreast-feeding\t🤱\nbreast-feeding_dark_skin_tone\t🤱🏿\nbreast-feeding_light_skin_tone\t🤱🏻\nbreast-feeding_medium-dark_skin_tone\t🤱🏾\nbreast-feeding_medium-light_skin_tone\t🤱🏼\nbreast-feeding_medium_skin_tone\t🤱🏽\nbrick\t🧱\n",
    "bride_with_veil\t👰\nbride_with_veil_dark_skin_tone\t👰🏿\nbride_with_veil_light_skin_tone\t👰🏻\nbride_with_veil_medium-dark_skin_tone\t👰🏾\nbride_with_veil_medium-light_skin_tone\t👰🏼\nbride_with_veil_medium_skin_tone\t👰🏽\nbridge_at_night\t🌉\nbriefcase\t💼\nbriefs\t🩲\nbright_button\t🔆\nbritish_indian_ocean_territory\t🇮🇴\nbritish_virgin_islands\t🇻🇬\nbroccoli\t🥦\nbroken_heart\t💔\nbroom\t🧹\nbrown_circle\t🟤\nbrown_heart\t🤎\nbrown_square\t🟫\nbrunei\t🇧🇳\nbug\t🐛\nbuilding_construction\t🏗\nbulb\t💡\nbulgaria\t🇧🇬\nbullet_train\t🚅\nbullettrain_front\t🚅\nbullettrain_side\t🚄\nburkina_faso\t🇧🇫\nburrito\t🌯\nburundi\t🇧🇮\nbus\t🚌\nbus_stop\t🚏\nbusstop\t🚏\nbust_in_silhouette\t👤\nbusts_in_silhouette\t👥\nbutter\t🧈\nbutterfly\t🦋\ncactus\t🌵\ncake\t🍰\ncalendar\t📆\ncall_me_hand\t🤙\ncall_me_hand_dark_skin_tone\t🤙🏿\ncall_me_hand_light_skin_tone\t🤙🏻\ncall_me_hand_medium-dark_skin_tone\t🤙🏾\ncall_me_hand_medium-light_skin_tone\t🤙🏼\ncall_me_hand_medium_skin_tone\t🤙🏽\ncalling\t📲\ncambodia\t🇰🇭\ncamel\t🐫\ncamera\t📷\ncamera_with_flash\t📸\ncameroon\t🇨🇲\ncamping\t🏕\ncanada\t🇨🇦\ncanary_islands\t🇮🇨\ncancer\t♋\ncandle\t🕯\ncandy\t🍬\n",
    "canned_food\t🥫\ncanoe\t🛶\ncape_verde\t🇨🇻\ncapital_abcd\t🔠\ncapricorn\t♑\ncar\t🚗\ncard_file_box\t🗃\ncard_index\t📇\ncard_index_dividers\t🗂\ncaribbean_netherlands\t🇧🇶\ncarousel_horse\t🎠\ncarp_streamer\t🎏\ncarrot\t🥕\ncastle\t🏰\ncat\t🐱\ncat2\t🐈\ncat_face\t🐱\ncat_face_with_tears_of_joy\t😹\ncat_face_with_wry_smile\t😼\ncayman_islands\t🇰🇾\ncd\t💿\ncentral_african_republic\t🇨🇫\nceuta_&_melilla\t🇪🇦\nchad\t🇹🇩\nchains\t⛓\nchair\t🪑\nchart\t💹\nchart_decreasing\t📉\nchart_increasing\t📈\nchart_increasing_with_yen\t💹\nchart_with_downwards_trend\t📉\nchart_with_upwards_trend\t📈\ncheckered_flag\t🏁\ncheese_wedge\t🧀\nchequered_flag\t🏁\ncherries\t🍒\ncherry_blossom\t🌸\nchess_pawn\t♟\nchestnut\t🌰\nchicken\t🐔\nchild\t🧒\nchild_dark_skin_tone\t🧒🏿\nchild_light_skin_tone\t🧒🏻\nchild_medium-dark_skin_tone\t🧒🏾\nchild_medium-light_skin_tone\t🧒🏼\nchild_medium_skin_tone\t🧒🏽\nchildren_crossing\t🚸\nchile\t🇨🇱\nchina\t🇨🇳\nchipmunk\t🐿\nchocolate_bar\t🍫\nchopsticks\t🥢\nchristmas_island\t🇨🇽\nchristmas_tree\t🎄\nchurch\t⛪\ncigarette\t🚬\ncinema\t🎦\ncircled_m\tⓂ\ncircus_tent\t🎪\ncity_sunrise\t🌇\ncity_sunset\t🌆\ncityscape\t🏙\ncityscape_at_dusk\t🌆\ncl\t🆑\n",
    "cl_button\t🆑\nclamp\t🗜\nclap\t👏\nclapper\t🎬\nclapper_board\t🎬\nclapping_hands\t👏\nclapping_hands_dark_skin_tone\t👏🏿\nclapping_hands_light_skin_tone\t👏🏻\nclapping_hands_medium-dark_skin_tone\t👏🏾\nclapping_hands_medium-light_skin_tone\t👏🏼\nclapping_hands_medium_skin_tone\t👏🏽\nclassical_building\t🏛\nclinking_beer_mugs\t🍻\nclinking_glasses\t🥂\nclipboard\t📋\nclipperton_island\t🇨🇵\nclock1\t🕐\nclock10\t🕙\nclock1030\t🕥\nclock11\t🕚\nclock1130\t🕦\nclock12\t🕛\nclock1230\t🕧\nclock130\t🕜\nclock2\t🕑\nclock230\t🕝\nclock3\t🕒\nclock330\t🕞\nclock4\t🕓\nclock430\t🕟\nclock5\t🕔\nclock530\t🕠\nclock6\t🕕\nclock630\t🕡\nclock7\t🕖\nclock730\t🕢\nclock8\t🕗\nclock830\t🕣\nclock9\t🕘\nclock930\t🕤\nclockwise_vertical_arrows\t🔃\nclosed_book\t📕\nclosed_lock_with_key\t🔐\nclosed_mailbox_with_lowered_flag\t📪\nclosed_mailbox_with_raised_flag\t📫\nclosed_umbrella\t🌂\ncloud\t☁\ncloud_with_lightning\t🌩\ncloud_with_lightning_and_rain\t⛈\ncloud_with_rain\t🌧\ncloud_with_snow\t🌨\ncloud_with_tornado\t🌪\nclown_face\t🤡\nclub_suit\t♣\nclubs\t♣\nclutch_bag\t👝\ncoat\t🧥\ncocktail\t🍸\ncocktail_glass\t🍸\ncoconut\t🥥\ncocos_(keeling)_islands\t🇨🇨\ncoffee\t☕\n",
    "coffin\t⚰\ncold_face\t🥶\ncold_sweat\t😰\ncollision\t💥\ncolombia\t🇨🇴\ncomet\t☄\ncomoros\t🇰🇲\ncompass\t🧭\ncompression\t🗜\ncomputer\t💻\ncomputer_disk\t💽\ncomputer_mouse\t🖱\nconfetti_ball\t🎊\nconfounded\t😖\nconfounded_face\t😖\nconfused\t😕\nconfused_face\t😕\ncongo_-_brazzaville\t🇨🇬\ncongo_-_kinshasa\t🇨🇩\ncongratulations\t㊗\nconstruction\t🚧\nconstruction_worker\t👷\nconstruction_worker_dark_skin_tone\t👷🏿\nconstruction_worker_light_skin_tone\t👷🏻\nconstruction_worker_medium-dark_skin_tone\t👷🏾\nconstruction_worker_medium-light_skin_tone\t👷🏼\nconstruction_worker_medium_skin_tone\t👷🏽\ncontrol_knobs\t🎛\nconvenience_store\t🏪\ncook_islands\t🇨🇰\ncooked_rice\t🍚\ncookie\t🍪\ncooking\t🍳\ncool\t🆒\ncool_button\t🆒\ncop\t👮\ncopyright\t©\ncorn\t🌽\ncosta_rica\t🇨🇷\ncouch_and_lamp\t🛋\ncounterclockwise_arrows_button\t🔄\ncouple\t👫\ncouple_with_heart\t💑\ncouple_with_heart_man_man\t👨‍❤️‍👨\ncouple_with_heart_woman_man\t👩‍❤️‍👨\ncouple_with_heart_woman_woman\t👩‍❤️‍👩\ncouplekiss\t💏\ncow\t🐮\ncow2\t🐄\ncow_face\t🐮\ncowboy_hat_face\t🤠\ncrab\t🦀\ncrayon\t🖍\ncredit_card\t💳\ncrescent_moon\t🌙\ncricket\t🦗\ncricket_bat_and_ball\t🏏\n",
    "cricket_game\t🏏\ncroatia\t🇭🇷\ncrocodile\t🐊\ncroissant\t🥐\ncross_mark\t❌\ncross_mark_button\t❎\ncrossed_fingers\t🤞\ncrossed_fingers_dark_skin_tone\t🤞🏿\ncrossed_fingers_light_skin_tone\t🤞🏻\ncrossed_fingers_medium-dark_skin_tone\t🤞🏾\ncrossed_fingers_medium-light_skin_tone\t🤞🏼\ncrossed_fingers_medium_skin_tone\t🤞🏽\ncrossed_flags\t🎌\ncrossed_swords\t⚔\ncrown\t👑\ncry\t😢\ncrying_cat_face\t😿\ncrying_face\t😢\ncrystal_ball\t🔮\ncuba\t🇨🇺\ncucumber\t🥒\ncup_with_straw\t🥤\ncupcake\t🧁\ncupid\t💘\ncuraçao\t🇨🇼\ncurling_stone\t🥌\ncurly-haired_man\t👨‍🦱\ncurly-haired_woman\t👩‍🦱\ncurly_hair\t🦱\ncurly_loop\t➰\ncurrency_exchange\t💱\ncurry\t🍛\ncurry_rice\t🍛\ncustard\t🍮\ncustoms\t🛃\ncut_of_meat\t🥩\ncyclone\t🌀\ncyprus\t🇨🇾\nczechia\t🇨🇿\ncôte_d’ivoire\t🇨🇮\ndagger\t🗡\ndagger_knife\t🗡\ndancer\t💃\ndancers\t👯\ndango\t🍡\ndark_skin_tone\t🏿\ndark_sunglasses\t🕶\ndart\t🎯\ndash\t💨\ndashing_away\t💨\ndate\t📅\ndeaf_person\t🧏\ndeciduous_tree\t🌳\ndeer\t🦌\ndelivery_truck\t🚚\ndenmark\t🇩🇰\ndepartment_store\t🏬\nderelict_house\t🏚\nderelict_house_building\t🏚\ndesert\t🏜\ndesert_island\t🏝\ndesktop_computer\t🖥\ndetective\t🕵\ndetective_dark_skin_tone\t🕵🏿\n",
    "detective_light_skin_tone\t🕵🏻\ndetective_medium-dark_skin_tone\t🕵🏾\ndetective_medium-light_skin_tone\t🕵🏼\ndetective_medium_skin_tone\t🕵🏽\ndiamond_shape_with_a_dot_inside\t💠\ndiamond_suit\t♦\ndiamond_with_a_dot\t💠\ndiamonds\t♦\ndiego_garcia\t🇩🇬\ndim_button\t🔅\ndirect_hit\t🎯\ndisappointed\t😞\ndisappointed_face\t😞\ndisappointed_relieved\t😥\ndiving_mask\t🤿\ndiya_lamp\t🪔\ndizzy\t💫\ndizzy_face\t😵\ndjibouti\t🇩🇯\ndna\t🧬\ndo_not_litter\t🚯\ndog\t🐶\ndog2\t🐕\ndog_face\t🐶\ndollar\t💵\ndollar_banknote\t💵\ndolls\t🎎\ndolphin\t🐬\ndominica\t🇩🇲\ndominican_republic\t🇩🇴\ndoor\t🚪\ndotted_six-pointed_star\t🔯\ndouble_curly_loop\t➿\ndouble_exclamation_mark\t‼\ndouble_vertical_bar\t⏸\ndoughnut\t🍩\ndove\t🕊\ndove_of_peace\t🕊\ndown-left_arrow\t↙\ndown-right_arrow\t↘\ndown_arrow\t⬇\ndowncast_face_with_sweat\t😓\ndownwards_button\t🔽\ndragon\t🐉\ndragon_face\t🐲\ndress\t👗\ndromedary_camel\t🐪\ndrooling_face\t🤤\ndrop_of_blood\t🩸\ndroplet\t💧\ndrum\t🥁\nduck\t🦆\ndumpling\t🥟\ndvd\t📀\ne-mail\t📧\ne__mail\t📧\neagle\t🦅\near\t👂\near_dark_skin_tone\t👂🏿\near_light_skin_tone\t👂🏻\near_medium-dark_skin_tone\t👂🏾\near_medium-light_skin_tone\t👂🏼\n",
    "ear_medium_skin_tone\t👂🏽\near_of_corn\t🌽\near_of_rice\t🌾\near_with_hearing_aid\t🦻\nearth_africa\t🌍\nearth_americas\t🌎\nearth_asia\t🌏\necuador\t🇪🇨\negg\t🍳\neggplant\t🍆\negypt\t🇪🇬\neight\t8️⃣\neight-pointed_star\t✴\neight-spoked_asterisk\t✳\neight-thirty\t🕣\neight_o’clock\t🕗\neight_pointed_black_star\t✴\neight_spoked_asterisk\t✳\neject_button\t⏏\neject_symbol\t⏏\nel_salvador\t🇸🇻\nelectric_plug\t🔌\nelephant\t🐘\neleven-thirty\t🕦\neleven_o’clock\t🕚\nelf\t🧝\nelf_dark_skin_tone\t🧝🏿\nelf_light_skin_tone\t🧝🏻\nelf_medium-dark_skin_tone\t🧝🏾\nelf_medium-light_skin_tone\t🧝🏼\nelf_medium_skin_tone\t🧝🏽\nemail\t✉\nemoji_modifier_fitzpatrick_type__1__2\t🏻\nemoji_modifier_fitzpatrick_type__3\t🏼\nemoji_modifier_fitzpatrick_type__4\t🏽\nemoji_modifier_fitzpatrick_type__5\t🏾\nemoji_modifier_fitzpatrick_type__6\t🏿\nend\t🔚\nend_arrow\t🔚\nengland\t🏴󠁧󠁢󠁥󠁮󠁧󠁿\nenvelope\t✉\nenvelope_with_arrow\t📩\nequatorial_guinea\t🇬🇶\neritrea\t🇪🇷\nestonia\t🇪🇪\nethiopia\t🇪🇹\neuro\t💶\neuro_banknote\t💶\neuropean_castle\t🏰\neuropean_post_office\t🏤\neuropean_union\t🇪🇺\nevergreen_tree\t🌲\newe\t🐑\nexclamation\t❗\nexclamation_mark\t❗\n",
    "exclamation_question_mark\t⁉\nexploding_head\t🤯\nexpressionless\t😑\nexpressionless_face\t😑\neye\t👁\neye_in_speech_bubble\t👁️‍🗨️\neyeglasses\t👓\neyes\t👀\nface_blowing_a_kiss\t😘\nface_savoring_food\t😋\nface_screaming_in_fear\t😱\nface_vomiting\t🤮\nface_with_hand_over_mouth\t🤭\nface_with_head-bandage\t🤕\nface_with_head__bandage\t🤕\nface_with_medical_mask\t😷\nface_with_monocle\t🧐\nface_with_open_mouth\t😮\nface_with_raised_eyebrow\t🤨\nface_with_rolling_eyes\t🙄\nface_with_steam_from_nose\t😤\nface_with_symbols_on_mouth\t🤬\nface_with_tears_of_joy\t😂\nface_with_thermometer\t🤒\nface_with_tongue\t😛\nface_without_mouth\t😶\nfacepunch\t👊\nfactory\t🏭\nfairy\t🧚\nfairy_dark_skin_tone\t🧚🏿\nfairy_light_skin_tone\t🧚🏻\nfairy_medium-dark_skin_tone\t🧚🏾\nfairy_medium-light_skin_tone\t🧚🏼\nfairy_medium_skin_tone\t🧚🏽\nfalafel\t🧆\nfalkland_islands\t🇫🇰\nfallen_leaf\t🍂\nfamily\t👪\nfamily_man_boy\t👨‍👦\nfamily_man_boy_boy\t👨‍👦‍👦\nfamily_man_girl\t👨‍👧\nfamily_man_girl_boy\t👨‍👧‍👦\nfamily_man_girl_girl\t👨‍👧‍👧\nfamily_man_man_boy\t👨‍👨‍👦\nfamily_man_man_boy_boy\t👨‍👨‍👦‍👦\nfamily_man_man_girl\t👨‍👨‍👧\n",
    "family_man_man_girl_boy\t👨‍👨‍👧‍👦\nfamily_man_man_girl_girl\t👨‍👨‍👧‍👧\nfamily_man_woman_boy\t👨‍👩‍👦\nfamily_man_woman_boy_boy\t👨‍👩‍👦‍👦\nfamily_man_woman_girl\t👨‍👩‍👧\nfamily_man_woman_girl_boy\t👨‍👩‍👧‍👦\nfamily_man_woman_girl_girl\t👨‍👩‍👧‍👧\nfamily_woman_boy\t👩‍👦\nfamily_woman_boy_boy\t👩‍👦‍👦\nfamily_woman_girl\t👩‍👧\nfamily_woman_girl_boy\t👩‍👧‍👦\nfamily_woman_girl_girl\t👩‍👧‍👧\nfamily_woman_woman_boy\t👩‍👩‍👦\nfamily_woman_woman_boy_boy\t👩‍👩‍👦‍👦\nfamily_woman_woman_girl\t👩‍👩‍👧\nfamily_woman_woman_girl_boy\t👩‍👩‍👧‍👦\nfamily_woman_woman_girl_girl\t👩‍👩‍👧‍👧\nfaroe_islands\t🇫🇴\nfast-forward_button\t⏩\nfast_down_button\t⏬\nfast_forward\t⏩\nfast_reverse_button\t⏪\nfast_up_button\t⏫\nfax\t📠\nfax_machine\t📠\nfearful\t😨\nfearful_face\t😨\nfeet\t🐾\nfemale_sign\t♀\nferris_wheel\t🎡\nferry\t⛴\nfield_hockey\t🏑\nfield_hockey_stick_and_ball\t🏑\nfiji\t🇫🇯\nfile_cabinet\t🗄\nfile_folder\t📁\nfilm_frames\t🎞\nfilm_projector\t📽\nfinland\t🇫🇮\nfire\t🔥\nfire_engine\t🚒\nfire_extinguisher\t🧯\nfirecracker\t🧨\nfireworks\t🎆\nfirst_quarter_moon\t🌓\nfirst_quarter_moon_face\t🌛\nfirst_quarter_moon_with_face\t🌛\nfish\t🐟\n",
    "fish_cake\t🍥\nfish_cake_with_swirl\t🍥\nfishing_pole\t🎣\nfishing_pole_and_fish\t🎣\nfist\t✊\nfive\t5️⃣\nfive-thirty\t🕠\nfive_o’clock\t🕔\nflag_for_afghanistan\t🇦🇫\nflag_for_albania\t🇦🇱\nflag_for_algeria\t🇩🇿\nflag_for_american_samoa\t🇦🇸\nflag_for_andorra\t🇦🇩\nflag_for_angola\t🇦🇴\nflag_for_anguilla\t🇦🇮\nflag_for_antarctica\t🇦🇶\nflag_for_antigua_&_barbuda\t🇦🇬\nflag_for_argentina\t🇦🇷\nflag_for_armenia\t🇦🇲\nflag_for_aruba\t🇦🇼\nflag_for_ascension_island\t🇦🇨\nflag_for_australia\t🇦🇺\nflag_for_austria\t🇦🇹\nflag_for_azerbaijan\t🇦🇿\nflag_for_bahamas\t🇧🇸\nflag_for_bahrain\t🇧🇭\nflag_for_bangladesh\t🇧🇩\nflag_for_barbados\t🇧🇧\nflag_for_belarus\t🇧🇾\nflag_for_belgium\t🇧🇪\nflag_for_belize\t🇧🇿\nflag_for_benin\t🇧🇯\nflag_for_bermuda\t🇧🇲\nflag_for_bhutan\t🇧🇹\nflag_for_bolivia\t🇧🇴\nflag_for_bosnia_&_herzegovina\t🇧🇦\nflag_for_botswana\t🇧🇼\nflag_for_bouvet_island\t🇧🇻\nflag_for_brazil\t🇧🇷\nflag_for_british_indian_ocean_territory\t🇮🇴\nflag_for_british_virgin_islands\t🇻🇬\nflag_for_brunei\t🇧🇳\nflag_for_bulgaria\t🇧🇬\nflag_for_burkina_faso\t🇧🇫\nflag_for_burundi\t🇧🇮\nflag_for_cambodia\t🇰🇭\n",
    "flag_for_cameroon\t🇨🇲\nflag_for_canada\t🇨🇦\nflag_for_canary_islands\t🇮🇨\nflag_for_cape_verde\t🇨🇻\nflag_for_caribbean_netherlands\t🇧🇶\nflag_for_cayman_islands\t🇰🇾\nflag_for_central_african_republic\t🇨🇫\nflag_for_ceuta_&_melilla\t🇪🇦\nflag_for_chad\t🇹🇩\nflag_for_chile\t🇨🇱\nflag_for_china\t🇨🇳\nflag_for_christmas_island\t🇨🇽\nflag_for_clipperton_island\t🇨🇵\nflag_for_cocos__islands\t🇨🇨\nflag_for_colombia\t🇨🇴\nflag_for_comoros\t🇰🇲\nflag_for_congo____brazzaville\t🇨🇬\nflag_for_congo____kinshasa\t🇨🇩\nflag_for_cook_islands\t🇨🇰\nflag_for_costa_rica\t🇨🇷\nflag_for_croatia\t🇭🇷\nflag_for_cuba\t🇨🇺\nflag_for_curaçao\t🇨🇼\nflag_for_cyprus\t🇨🇾\nflag_for_czech_republic\t🇨🇿\nflag_for_côte_d’ivoire\t🇨🇮\nflag_for_denmark\t🇩🇰\nflag_for_diego_garcia\t🇩🇬\nflag_for_djibouti\t🇩🇯\nflag_for_dominica\t🇩🇲\nflag_for_dominican_republic\t🇩🇴\nflag_for_ecuador\t🇪🇨\nflag_for_egypt\t🇪🇬\nflag_for_el_salvador\t🇸🇻\nflag_for_equatorial_guinea\t🇬🇶\nflag_for_eritrea\t🇪🇷\nflag_for_estonia\t🇪🇪\nflag_for_ethiopia\t🇪🇹\nflag_for_european_union\t🇪🇺\nflag_for_falkland_islands\t🇫🇰\nflag_for_faroe_islands\t🇫🇴\n",
    "flag_for_fiji\t🇫🇯\nflag_for_finland\t🇫🇮\nflag_for_france\t🇫🇷\nflag_for_french_guiana\t🇬🇫\nflag_for_french_polynesia\t🇵🇫\nflag_for_french_southern_territories\t🇹🇫\nflag_for_gabon\t🇬🇦\nflag_for_gambia\t🇬🇲\nflag_for_georgia\t🇬🇪\nflag_for_germany\t🇩🇪\nflag_for_ghana\t🇬🇭\nflag_for_gibraltar\t🇬🇮\nflag_for_greece\t🇬🇷\nflag_for_greenland\t🇬🇱\nflag_for_grenada\t🇬🇩\nflag_for_guadeloupe\t🇬🇵\nflag_for_guam\t🇬🇺\nflag_for_guatemala\t🇬🇹\nflag_for_guernsey\t🇬🇬\nflag_for_guinea\t🇬🇳\nflag_for_guinea__bissau\t🇬🇼\nflag_for_guyana\t🇬🇾\nflag_for_haiti\t🇭🇹\nflag_for_heard_&_mcdonald_islands\t🇭🇲\nflag_for_honduras\t🇭🇳\nflag_for_hong_kong\t🇭🇰\nflag_for_hungary\t🇭🇺\nflag_for_iceland\t🇮🇸\nflag_for_india\t🇮🇳\nflag_for_indonesia\t🇮🇩\nflag_for_iran\t🇮🇷\nflag_for_iraq\t🇮🇶\nflag_for_ireland\t🇮🇪\nflag_for_isle_of_man\t🇮🇲\nflag_for_israel\t🇮🇱\nflag_for_italy\t🇮🇹\nflag_for_jamaica\t🇯🇲\nflag_for_japan\t🇯🇵\nflag_for_jersey\t🇯🇪\nflag_for_jordan\t🇯🇴\nflag_for_kazakhstan\t🇰🇿\nflag_for_kenya\t🇰🇪\nflag_for_kiribati\t🇰🇮\nflag_for_kosovo\t🇽🇰\nflag_for_kuwait\t🇰🇼\nflag_for_kyrgyzstan\t🇰🇬\nflag_for_laos\t🇱🇦\n",
    "flag_for_latvia\t🇱🇻\nflag_for_lebanon\t🇱🇧\nflag_for_lesotho\t🇱🇸\nflag_for_liberia\t🇱🇷\nflag_for_libya\t🇱🇾\nflag_for_liechtenstein\t🇱🇮\nflag_for_lithuania\t🇱🇹\nflag_for_luxembourg\t🇱🇺\nflag_for_macau\t🇲🇴\nflag_for_macedonia\t🇲🇰\nflag_for_madagascar\t🇲🇬\nflag_for_malawi\t🇲🇼\nflag_for_malaysia\t🇲🇾\nflag_for_maldives\t🇲🇻\nflag_for_mali\t🇲🇱\nflag_for_malta\t🇲🇹\nflag_for_marshall_islands\t🇲🇭\nflag_for_martinique\t🇲🇶\nflag_for_mauritania\t🇲🇷\nflag_for_mauritius\t🇲🇺\nflag_for_mayotte\t🇾🇹\nflag_for_mexico\t🇲🇽\nflag_for_micronesia\t🇫🇲\nflag_for_moldova\t🇲🇩\nflag_for_monaco\t🇲🇨\nflag_for_mongolia\t🇲🇳\nflag_for_montenegro\t🇲🇪\nflag_for_montserrat\t🇲🇸\nflag_for_morocco\t🇲🇦\nflag_for_mozambique\t🇲🇿\nflag_for_myanmar\t🇲🇲\nflag_for_namibia\t🇳🇦\nflag_for_nauru\t🇳🇷\nflag_for_nepal\t🇳🇵\nflag_for_netherlands\t🇳🇱\nflag_for_new_caledonia\t🇳🇨\nflag_for_new_zealand\t🇳🇿\nflag_for_nicaragua\t🇳🇮\nflag_for_niger\t🇳🇪\nflag_for_nigeria\t🇳🇬\nflag_for_niue\t🇳🇺\nflag_for_norfolk_island\t🇳🇫\nflag_for_north_korea\t🇰🇵\nflag_for_northern_mariana_islands\t🇲🇵\nflag_for_norway\t🇳🇴\nflag_for_oman\t🇴🇲\n",
    "flag_for_pakistan\t🇵🇰\nflag_for_palau\t🇵🇼\nflag_for_palestinian_territories\t🇵🇸\nflag_for_panama\t🇵🇦\nflag_for_papua_new_guinea\t🇵🇬\nflag_for_paraguay\t🇵🇾\nflag_for_peru\t🇵🇪\nflag_for_philippines\t🇵🇭\nflag_for_pitcairn_islands\t🇵🇳\nflag_for_poland\t🇵🇱\nflag_for_portugal\t🇵🇹\nflag_for_puerto_rico\t🇵🇷\nflag_for_qatar\t🇶🇦\nflag_for_romania\t🇷🇴\nflag_for_russia\t🇷🇺\nflag_for_rwanda\t🇷🇼\nflag_for_réunion\t🇷🇪\nflag_for_samoa\t🇼🇸\nflag_for_san_marino\t🇸🇲\nflag_for_saudi_arabia\t🇸🇦\nflag_for_senegal\t🇸🇳\nflag_for_serbia\t🇷🇸\nflag_for_seychelles\t🇸🇨\nflag_for_sierra_leone\t🇸🇱\nflag_for_singapore\t🇸🇬\nflag_for_sint_maarten\t🇸🇽\nflag_for_slovakia\t🇸🇰\nflag_for_slovenia\t🇸🇮\nflag_for_solomon_islands\t🇸🇧\nflag_for_somalia\t🇸🇴\nflag_for_south_africa\t🇿🇦\nflag_for_south_georgia_&_south_sandwich_islands\t🇬🇸\nflag_for_south_korea\t🇰🇷\nflag_for_south_sudan\t🇸🇸\nflag_for_spain\t🇪🇸\nflag_for_sri_lanka\t🇱🇰\nflag_for_st._barthélemy\t🇧🇱\nflag_for_st._helena\t🇸🇭\nflag_for_st._kitts_&_nevis\t🇰🇳\nflag_for_st._lucia\t🇱🇨\nflag_for_st._martin\t🇲🇫\nflag_for_st._pierre_&_miquelon\t🇵🇲\n",
    "flag_for_st._vincent_&_grenadines\t🇻🇨\nflag_for_sudan\t🇸🇩\nflag_for_suriname\t🇸🇷\nflag_for_svalbard_&_jan_mayen\t🇸🇯\nflag_for_swaziland\t🇸🇿\nflag_for_sweden\t🇸🇪\nflag_for_switzerland\t🇨🇭\nflag_for_syria\t🇸🇾\nflag_for_são_tomé_&_príncipe\t🇸🇹\nflag_for_taiwan\t🇹🇼\nflag_for_tajikistan\t🇹🇯\nflag_for_tanzania\t🇹🇿\nflag_for_thailand\t🇹🇭\nflag_for_timor__leste\t🇹🇱\nflag_for_togo\t🇹🇬\nflag_for_tokelau\t🇹🇰\nflag_for_tonga\t🇹🇴\nflag_for_trinidad_&_tobago\t🇹🇹\nflag_for_tristan_da_cunha\t🇹🇦\nflag_for_tunisia\t🇹🇳\nflag_for_turkey\t🇹🇷\nflag_for_turkmenistan\t🇹🇲\nflag_for_turks_&_caicos_islands\t🇹🇨\nflag_for_tuvalu\t🇹🇻\nflag_for_u.s._outlying_islands\t🇺🇲\nflag_for_u.s._virgin_islands\t🇻🇮\nflag_for_uganda\t🇺🇬\nflag_for_ukraine\t🇺🇦\nflag_for_united_arab_emirates\t🇦🇪\nflag_for_united_kingdom\t🇬🇧\nflag_for_united_states\t🇺🇸\nflag_for_uruguay\t🇺🇾\nflag_for_uzbekistan\t🇺🇿\nflag_for_vanuatu\t🇻🇺\nflag_for_vatican_city\t🇻🇦\nflag_for_venezuela\t🇻🇪\nflag_for_vietnam\t🇻🇳\nflag_for_wallis_&_futuna\t🇼🇫\nflag_for_western_sahara\t🇪🇭\nflag_for_yemen\t🇾🇪\nflag_for_zambia\t🇿🇲\nflag_for_zimbabwe\t🇿🇼\n",
    "flag_for_åland_islands\t🇦🇽\nflag_in_hole\t⛳\nflags\t🎏\nflamingo\t🦩\nflashlight\t🔦\nflat_shoe\t🥿\nfleur-de-lis\t⚜\nfleur__de__lis\t⚜\nflexed_biceps\t💪\nflexed_biceps_dark_skin_tone\t💪🏿\nflexed_biceps_light_skin_tone\t💪🏻\nflexed_biceps_medium-dark_skin_tone\t💪🏾\nflexed_biceps_medium-light_skin_tone\t💪🏼\nflexed_biceps_medium_skin_tone\t💪🏽\nflipper\t🐬\nfloppy_disk\t💾\nflower_playing_cards\t🎴\nflushed\t😳\nflushed_face\t😳\nflying_disc\t🥏\nflying_saucer\t🛸\nfog\t🌫\nfoggy\t🌁\nfolded_hands\t🙏\nfolded_hands_dark_skin_tone\t🙏🏿\nfolded_hands_light_skin_tone\t🙏🏻\nfolded_hands_medium-dark_skin_tone\t🙏🏾\nfolded_hands_medium-light_skin_tone\t🙏🏼\nfolded_hands_medium_skin_tone\t🙏🏽\nfoot\t🦶\nfootball\t🏈\nfootprints\t👣\nfork_and_knife\t🍴\nfork_and_knife_with_plate\t🍽\nfortune_cookie\t🥠\nfountain\t⛲\nfountain_pen\t🖋\nfour\t4️⃣\nfour-thirty\t🕟\nfour_leaf_clover\t🍀\nfour_o’clock\t🕓\nfox_face\t🦊\nframe_with_picture\t🖼\nframed_picture\t🖼\nfrance\t🇫🇷\nfree\t🆓\nfree_button\t🆓\nfrench_fries\t🍟\nfrench_guiana\t🇬🇫\nfrench_polynesia\t🇵🇫\nfrench_southern_territories\t🇹🇫\nfried_shrimp\t🍤\nfries\t🍟\nfrog\t🐸\nfrog_face\t🐸\n",
    "front-facing_baby_chick\t🐥\nfrowning\t😦\nfrowning_face\t☹\nfrowning_face_with_open_mouth\t😦\nfuel_pump\t⛽\nfuelpump\t⛽\nfull_moon\t🌕\nfull_moon_face\t🌝\nfull_moon_with_face\t🌝\nfuneral_urn\t⚱\ngabon\t🇬🇦\ngambia\t🇬🇲\ngame_die\t🎲\ngarlic\t🧄\ngear\t⚙\ngem\t💎\ngem_stone\t💎\ngemini\t♊\ngenie\t🧞\ngeorgia\t🇬🇪\ngermany\t🇩🇪\nghana\t🇬🇭\nghost\t👻\ngibraltar\t🇬🇮\ngift\t🎁\ngift_heart\t💝\ngiraffe\t🦒\ngirl\t👧\ngirl_dark_skin_tone\t👧🏿\ngirl_light_skin_tone\t👧🏻\ngirl_medium-dark_skin_tone\t👧🏾\ngirl_medium-light_skin_tone\t👧🏼\ngirl_medium_skin_tone\t👧🏽\nglass_of_milk\t🥛\nglasses\t👓\nglobe_showing_americas\t🌎\nglobe_showing_asia-australia\t🌏\nglobe_showing_europe-africa\t🌍\nglobe_with_meridians\t🌐\ngloves\t🧤\nglowing_star\t🌟\ngoal_net\t🥅\ngoat\t🐐\ngoblin\t👺\ngoggles\t🥽\ngolf\t⛳\ngolfer\t🏌\ngorilla\t🦍\ngraduation_cap\t🎓\ngrapes\t🍇\ngreece\t🇬🇷\ngreen_apple\t🍏\ngreen_book\t📗\ngreen_circle\t🟢\ngreen_heart\t💚\ngreen_salad\t🥗\ngreen_square\t🟩\ngreenland\t🇬🇱\ngrenada\t🇬🇩\ngrey_exclamation\t❕\ngrey_question\t❔\ngrimacing\t😬\ngrimacing_face\t😬\ngrin\t😁\ngrinning\t😀\ngrinning_cat_face\t😺\ngrinning_cat_face_with_smiling_eyes\t😸\ngrinning_face\t😀\n",
    "grinning_face_with_big_eyes\t😃\ngrinning_face_with_smiling_eyes\t😄\ngrinning_face_with_sweat\t😅\ngrinning_squinting_face\t😆\ngrowing_heart\t💗\nguadeloupe\t🇬🇵\nguam\t🇬🇺\nguard\t💂\nguard_dark_skin_tone\t💂🏿\nguard_light_skin_tone\t💂🏻\nguard_medium-dark_skin_tone\t💂🏾\nguard_medium-light_skin_tone\t💂🏼\nguard_medium_skin_tone\t💂🏽\nguardsman\t💂\nguatemala\t🇬🇹\nguernsey\t🇬🇬\nguide_dog\t🦮\nguinea\t🇬🇳\nguinea-bissau\t🇬🇼\nguitar\t🎸\ngun\t🔫\nguyana\t🇬🇾\nhaircut\t💇\nhaiti\t🇭🇹\nhamburger\t🍔\nhammer\t🔨\nhammer_and_pick\t⚒\nhammer_and_wrench\t🛠\nhamster\t🐹\nhamster_face\t🐹\nhand\t✋\nhand_with_fingers_splayed\t🖐\nhand_with_fingers_splayed_dark_skin_tone\t🖐🏿\nhand_with_fingers_splayed_light_skin_tone\t🖐🏻\nhand_with_fingers_splayed_medium-dark_skin_tone\t🖐🏾\nhand_with_fingers_splayed_medium-light_skin_tone\t🖐🏼\nhand_with_fingers_splayed_medium_skin_tone\t🖐🏽\nhandbag\t👜\nhandshake\t🤝\nhankey\t💩\nhatched_chick\t🐥\nhatching_chick\t🐣\nheadphone\t🎧\nheadphones\t🎧\nhear-no-evil_monkey\t🙉\nhear_no_evil\t🙉\nheard_&_mcdonald_islands\t🇭🇲\nheart\t❤\nheart_decoration\t💟\nheart_eyes\t😍\nheart_eyes_cat\t😻\n",
    "heart_suit\t♥\nheart_with_arrow\t💘\nheart_with_ribbon\t💝\nheartbeat\t💓\nheartpulse\t💗\nhearts\t♥\nheavy_check_mark\t✔\nheavy_division_sign\t➗\nheavy_dollar_sign\t💲\nheavy_exclamation_mark\t❗\nheavy_heart_exclamation\t❣\nheavy_heart_exclamation_mark_ornament\t❣\nheavy_large_circle\t⭕\nheavy_minus_sign\t➖\nheavy_multiplication_x\t✖\nheavy_plus_sign\t➕\nhedgehog\t🦔\nhelicopter\t🚁\nhelm_symbol\t⎈\nhelmet_with_white_cross\t⛑\nherb\t🌿\nhibiscus\t🌺\nhigh-heeled_shoe\t👠\nhigh-speed_train\t🚄\nhigh_brightness\t🔆\nhigh_heel\t👠\nhigh_voltage\t⚡\nhiking_boot\t🥾\nhindu_temple\t🛕\nhippopotamus\t🦛\nhocho\t🔪\nhole\t🕳\nhonduras\t🇭🇳\nhoney_pot\t🍯\nhoneybee\t🐝\nhong_kong_sar_china\t🇭🇰\nhorizontal_traffic_light\t🚥\nhorse\t🐴\nhorse_face\t🐴\nhorse_racing\t🏇\nhorse_racing_dark_skin_tone\t🏇🏿\nhorse_racing_light_skin_tone\t🏇🏻\nhorse_racing_medium-dark_skin_tone\t🏇🏾\nhorse_racing_medium-light_skin_tone\t🏇🏼\nhorse_racing_medium_skin_tone\t🏇🏽\nhospital\t🏥\nhot_beverage\t☕\nhot_dog\t🌭\nhot_face\t🥵\nhot_pepper\t🌶\nhot_springs\t♨\nhotel\t🏨\nhotsprings\t♨\nhourglass\t⌛\nhourglass_done\t⌛\nhourglass_flowing_sand\t⏳\n",
    "hourglass_not_done\t⏳\nhouse\t🏠\nhouse_buildings\t🏘\nhouse_with_garden\t🏡\nhouses\t🏘\nhugging_face\t🤗\nhundred_points\t💯\nhungary\t🇭🇺\nhushed\t😯\nhushed_face\t😯\nice\t🧊\nice_cream\t🍨\nice_hockey\t🏒\nice_hockey_stick_and_puck\t🏒\nice_skate\t⛸\nicecream\t🍦\niceland\t🇮🇸\nid\t🆔\nid_button\t🆔\nideograph_advantage\t🉐\nimp\t👿\ninbox_tray\t📥\nincoming_envelope\t📨\nindex_pointing_up\t☝\nindex_pointing_up_dark_skin_tone\t☝🏿\nindex_pointing_up_light_skin_tone\t☝🏻\nindex_pointing_up_medium-dark_skin_tone\t☝🏾\nindex_pointing_up_medium-light_skin_tone\t☝🏼\nindex_pointing_up_medium_skin_tone\t☝🏽\nindia\t🇮🇳\nindonesia\t🇮🇩\ninfinity\t♾\ninformation\tℹ\ninformation_desk_person\t💁\ninformation_source\tℹ\ninnocent\t😇\ninput_latin_letters\t🔤\ninput_latin_lowercase\t🔡\ninput_latin_uppercase\t🔠\ninput_numbers\t🔢\ninput_symbols\t🔣\ninterrobang\t⁉\niphone\t📱\niran\t🇮🇷\niraq\t🇮🇶\nireland\t🇮🇪\nisle_of_man\t🇮🇲\nisrael\t🇮🇱\nitaly\t🇮🇹\nizakaya_lantern\t🏮\njack-o-lantern\t🎃\njack_o_lantern\t🎃\njamaica\t🇯🇲\njapan\t🗾\njapanese_acceptable_button\t🉑\njapanese_application_button\t🈸\njapanese_bargain_button\t🉐\njapanese_castle\t🏯\n",
    "japanese_congratulations_button\t㊗\njapanese_discount_button\t🈹\njapanese_dolls\t🎎\njapanese_free_of_charge_button\t🈚\njapanese_goblin\t👺\njapanese_here_button\t🈁\njapanese_monthly_amount_button\t🈷\njapanese_no_vacancy_button\t🈵\njapanese_not_free_of_charge_button\t🈶\njapanese_ogre\t👹\njapanese_open_for_business_button\t🈺\njapanese_passing_grade_button\t🈴\njapanese_post_office\t🏣\njapanese_prohibited_button\t🈲\njapanese_reserved_button\t🈯\njapanese_secret_button\t㊙\njapanese_service_charge_button\t🈂\njapanese_symbol_for_beginner\t🔰\njapanese_vacancy_button\t🈳\njeans\t👖\njersey\t🇯🇪\njigsaw\t🧩\njoker\t🃏\njordan\t🇯🇴\njoy\t😂\njoy_cat\t😹\njoystick\t🕹\nkaaba\t🕋\nkangaroo\t🦘\nkazakhstan\t🇰🇿\nkenya\t🇰🇪\nkey\t🔑\nkeyboard\t⌨\nkeycap_#\t#️⃣\nkeycap_*\t*️⃣\nkeycap_0\t0️⃣\nkeycap_1\t1️⃣\nkeycap_10\t🔟\nkeycap_2\t2️⃣\nkeycap_3\t3️⃣\nkeycap_4\t4️⃣\nkeycap_5\t5️⃣\nkeycap_6\t6️⃣\nkeycap_7\t7️⃣\nkeycap_8\t8️⃣\nkeycap_9\t9️⃣\nkeycap_asterisk\t*⃣\nkeycap_digit_eight\t8⃣\nkeycap_digit_five\t5⃣\nkeycap_digit_four\t4⃣\nkeycap_digit_nine\t9⃣\nkeycap_digit_one\t1⃣\nkeycap_digit_seven\t7⃣\nkeycap_digit_six\t6⃣\n",
    "keycap_digit_three\t3⃣\nkeycap_digit_two\t2⃣\nkeycap_digit_zero\t0⃣\nkeycap_number_sign\t#⃣\nkick_scooter\t🛴\nkimono\t👘\nkiribati\t🇰🇮\nkiss\t💋\nkiss_man_man\t👨‍❤️‍💋‍👨\nkiss_mark\t💋\nkiss_woman_man\t👩‍❤️‍💋‍👨\nkiss_woman_woman\t👩‍❤️‍💋‍👩\nkissing\t😗\nkissing_cat\t😽\nkissing_cat_face\t😽\nkissing_closed_eyes\t😚\nkissing_face\t😗\nkissing_face_with_closed_eyes\t😚\nkissing_face_with_smiling_eyes\t😙\nkissing_heart\t😘\nkissing_smiling_eyes\t😙\nkitchen_knife\t🔪\nkite\t🪁\nkiwi_fruit\t🥝\nknife\t🔪\nkoala\t🐨\nkoko\t🈁\nkosovo\t🇽🇰\nkuwait\t🇰🇼\nkyrgyzstan\t🇰🇬\nlab_coat\t🥼\nlabel\t🏷\nlacrosse\t🥍\nlady_beetle\t🐞\nlantern\t🏮\nlaos\t🇱🇦\nlaptop_computer\t💻\nlarge_blue_circle\t🔵\nlarge_blue_diamond\t🔷\nlarge_orange_diamond\t🔶\nlast_quarter_moon\t🌗\nlast_quarter_moon_face\t🌜\nlast_quarter_moon_with_face\t🌜\nlast_track_button\t⏮\nlatin_cross\t✝\nlatvia\t🇱🇻\nlaughing\t😆\nleaf_fluttering_in_wind\t🍃\nleafy_green\t🥬\nleaves\t🍃\nlebanon\t🇱🇧\nledger\t📒\nleft-facing_fist\t🤛\nleft-facing_fist_dark_skin_tone\t🤛🏿\nleft-facing_fist_light_skin_tone\t🤛🏻\nleft-facing_fist_medium-dark_skin_tone\t🤛🏾\n",
    "left-facing_fist_medium-light_skin_tone\t🤛🏼\nleft-facing_fist_medium_skin_tone\t🤛🏽\nleft-right_arrow\t↔\nleft_arrow\t⬅\nleft_arrow_curving_right\t↪\nleft_luggage\t🛅\nleft_right_arrow\t↔\nleft_speech_bubble\t🗨\nleftwards_arrow_with_hook\t↩\nleg\t🦵\nlemon\t🍋\nleo\t♌\nleopard\t🐆\nlesotho\t🇱🇸\nlevel_slider\t🎚\nliberia\t🇱🇷\nlibra\t♎\nlibya\t🇱🇾\nliechtenstein\t🇱🇮\nlight_bulb\t💡\nlight_rail\t🚈\nlight_skin_tone\t🏻\nlink\t🔗\nlinked_paperclips\t🖇\nlion_face\t🦁\nlips\t👄\nlipstick\t💄\nlithuania\t🇱🇹\nlitter_in_bin_sign\t🚮\nlizard\t🦎\nllama\t🦙\nlobster\t🦞\nlock\t🔒\nlock_with_ink_pen\t🔏\nlocked\t🔒\nlocked_with_key\t🔐\nlocked_with_pen\t🔏\nlocomotive\t🚂\nlollipop\t🍭\nloop\t➿\nlotion_bottle\t🧴\nloud_sound\t🔊\nloudly_crying_face\t😭\nloudspeaker\t📢\nlove-you_gesture\t🤟\nlove-you_gesture_dark_skin_tone\t🤟🏿\nlove-you_gesture_light_skin_tone\t🤟🏻\nlove-you_gesture_medium-dark_skin_tone\t🤟🏾\nlove-you_gesture_medium-light_skin_tone\t🤟🏼\nlove-you_gesture_medium_skin_tone\t🤟🏽\nlove_hotel\t🏩\nlove_letter\t💌\nlow_brightness\t🔅\nlower_left_ballpoint_pen\t🖊\nlower_left_crayon\t🖍\nlower_left_fountain_pen\t🖋\n",
    "lower_left_paintbrush\t🖌\nluggage\t🧳\nluxembourg\t🇱🇺\nlying_face\t🤥\nm\tⓂ\nmacau_sar_china\t🇲🇴\nmacedonia\t🇲🇰\nmadagascar\t🇲🇬\nmag\t🔍\nmag_right\t🔎\nmage\t🧙\nmage_dark_skin_tone\t🧙🏿\nmage_light_skin_tone\t🧙🏻\nmage_medium-dark_skin_tone\t🧙🏾\nmage_medium-light_skin_tone\t🧙🏼\nmage_medium_skin_tone\t🧙🏽\nmagnet\t🧲\nmagnifying_glass_tilted_left\t🔍\nmagnifying_glass_tilted_right\t🔎\nmahjong\t🀄\nmahjong_red_dragon\t🀄\nmailbox\t📫\nmailbox_closed\t📪\nmailbox_with_mail\t📬\nmailbox_with_no_mail\t📭\nmalawi\t🇲🇼\nmalaysia\t🇲🇾\nmaldives\t🇲🇻\nmale_sign\t♂\nmali\t🇲🇱\nmalta\t🇲🇹\nman\t👨\nman_and_woman_holding_hands\t👫\nman_artist\t👨‍🎨\nman_artist_dark_skin_tone\t👨🏿‍🎨\nman_artist_light_skin_tone\t👨🏻‍🎨\nman_artist_medium-dark_skin_tone\t👨🏾‍🎨\nman_artist_medium-light_skin_tone\t👨🏼‍🎨\nman_artist_medium_skin_tone\t👨🏽‍🎨\nman_astronaut\t👨‍🚀\nman_astronaut_dark_skin_tone\t👨🏿‍🚀\nman_astronaut_light_skin_tone\t👨🏻‍🚀\nman_astronaut_medium-dark_skin_tone\t👨🏾‍🚀\nman_astronaut_medium-light_skin_tone\t👨🏼‍🚀\nman_astronaut_medium_skin_tone\t👨🏽‍🚀\nman_biking\t🚴‍♂️\nman_biking_dark_skin_tone\t🚴🏿‍♂️\n",
    "man_biking_light_skin_tone\t🚴🏻‍♂️\nman_biking_medium-dark_skin_tone\t🚴🏾‍♂️\nman_biking_medium-light_skin_tone\t🚴🏼‍♂️\nman_biking_medium_skin_tone\t🚴🏽‍♂️\nman_bouncing_ball\t⛹️‍♂️\nman_bouncing_ball_dark_skin_tone\t⛹🏿‍♂️\nman_bouncing_ball_light_skin_tone\t⛹🏻‍♂️\nman_bouncing_ball_medium-dark_skin_tone\t⛹🏾‍♂️\nman_bouncing_ball_medium-light_skin_tone\t⛹🏼‍♂️\nman_bouncing_ball_medium_skin_tone\t⛹🏽‍♂️\nman_bowing\t🙇‍♂️\nman_bowing_dark_skin_tone\t🙇🏿‍♂️\nman_bowing_light_skin_tone\t🙇🏻‍♂️\nman_bowing_medium-dark_skin_tone\t🙇🏾‍♂️\nman_bowing_medium-light_skin_tone\t🙇🏼‍♂️\nman_bowing_medium_skin_tone\t🙇🏽‍♂️\nman_cartwheeling\t🤸‍♂️\nman_cartwheeling_dark_skin_tone\t🤸🏿‍♂️\nman_cartwheeling_light_skin_tone\t🤸🏻‍♂️\nman_cartwheeling_medium-dark_skin_tone\t🤸🏾‍♂️\nman_cartwheeling_medium-light_skin_tone\t🤸🏼‍♂️\nman_cartwheeling_medium_skin_tone\t🤸🏽‍♂️\nman_climbing\t🧗‍♂️\nman_climbing_dark_skin_tone\t🧗🏿‍♂️\nman_climbing_light_skin_tone\t🧗🏻‍♂️\nman_climbing_medium-dark_skin_tone\t🧗🏾‍♂️\nman_climbing_medium-light_skin_tone\t🧗🏼‍♂️\n",
    "man_climbing_medium_skin_tone\t🧗🏽‍♂️\nman_construction_worker\t👷‍♂️\nman_construction_worker_dark_skin_tone\t👷🏿‍♂️\nman_construction_worker_light_skin_tone\t👷🏻‍♂️\nman_construction_worker_medium-dark_skin_tone\t👷🏾‍♂️\nman_construction_worker_medium-light_skin_tone\t👷🏼‍♂️\nman_construction_worker_medium_skin_tone\t👷🏽‍♂️\nman_cook\t👨‍🍳\nman_cook_dark_skin_tone\t👨🏿‍🍳\nman_cook_light_skin_tone\t👨🏻‍🍳\nman_cook_medium-dark_skin_tone\t👨🏾‍🍳\nman_cook_medium-light_skin_tone\t👨🏼‍🍳\nman_cook_medium_skin_tone\t👨🏽‍🍳\nman_dancing\t🕺\nman_dancing_dark_skin_tone\t🕺🏿\nman_dancing_light_skin_tone\t🕺🏻\nman_dancing_medium-dark_skin_tone\t🕺🏾\nman_dancing_medium-light_skin_tone\t🕺🏼\nman_dancing_medium_skin_tone\t🕺🏽\nman_dark_skin_tone\t👨🏿\nman_detective\t🕵️‍♂️\nman_detective_dark_skin_tone\t🕵🏿‍♂️\nman_detective_light_skin_tone\t🕵🏻‍♂️\nman_detective_medium-dark_skin_tone\t🕵🏾‍♂️\nman_detective_medium-light_skin_tone\t🕵🏼‍♂️\nman_detective_medium_skin_tone\t🕵🏽‍♂️\nman_elf\t🧝‍♂️\nman_elf_dark_skin_tone\t🧝🏿‍♂️\nman_elf_light_skin_tone\t🧝🏻‍♂️\n",
    "man_elf_medium-dark_skin_tone\t🧝🏾‍♂️\nman_elf_medium-light_skin_tone\t🧝🏼‍♂️\nman_elf_medium_skin_tone\t🧝🏽‍♂️\nman_facepalming\t🤦‍♂️\nman_facepalming_dark_skin_tone\t🤦🏿‍♂️\nman_facepalming_light_skin_tone\t🤦🏻‍♂️\nman_facepalming_medium-dark_skin_tone\t🤦🏾‍♂️\nman_facepalming_medium-light_skin_tone\t🤦🏼‍♂️\nman_facepalming_medium_skin_tone\t🤦🏽‍♂️\nman_factory_worker\t👨‍🏭\nman_factory_worker_dark_skin_tone\t👨🏿‍🏭\nman_factory_worker_light_skin_tone\t👨🏻‍🏭\nman_factory_worker_medium-dark_skin_tone\t👨🏾‍🏭\nman_factory_worker_medium-light_skin_tone\t👨🏼‍🏭\nman_factory_worker_medium_skin_tone\t👨🏽‍🏭\nman_fairy\t🧚‍♂️\nman_fairy_dark_skin_tone\t🧚🏿‍♂️\nman_fairy_light_skin_tone\t🧚🏻‍♂️\nman_fairy_medium-dark_skin_tone\t🧚🏾‍♂️\nman_fairy_medium-light_skin_tone\t🧚🏼‍♂️\nman_fairy_medium_skin_tone\t🧚🏽‍♂️\nman_farmer\t👨‍🌾\nman_farmer_dark_skin_tone\t👨🏿‍🌾\nman_farmer_light_skin_tone\t👨🏻‍🌾\nman_farmer_medium-dark_skin_tone\t👨🏾‍🌾\nman_farmer_medium-light_skin_tone\t👨🏼‍🌾\nman_farmer_medium_skin_tone\t👨🏽‍🌾\nman_firefighter\t👨‍🚒\nman_firefighter_dark_skin_tone\t👨🏿‍🚒\n",
    "man_firefighter_light_skin_tone\t👨🏻‍🚒\nman_firefighter_medium-dark_skin_tone\t👨🏾‍🚒\nman_firefighter_medium-light_skin_tone\t👨🏼‍🚒\nman_firefighter_medium_skin_tone\t👨🏽‍🚒\nman_frowning\t🙍‍♂️\nman_frowning_dark_skin_tone\t🙍🏿‍♂️\nman_frowning_light_skin_tone\t🙍🏻‍♂️\nman_frowning_medium-dark_skin_tone\t🙍🏾‍♂️\nman_frowning_medium-light_skin_tone\t🙍🏼‍♂️\nman_frowning_medium_skin_tone\t🙍🏽‍♂️\nman_genie\t🧞‍♂️\nman_gesturing_no\t🙅‍♂️\nman_gesturing_no_dark_skin_tone\t🙅🏿‍♂️\nman_gesturing_no_light_skin_tone\t🙅🏻‍♂️\nman_gesturing_no_medium-dark_skin_tone\t🙅🏾‍♂️\nman_gesturing_no_medium-light_skin_tone\t🙅🏼‍♂️\nman_gesturing_no_medium_skin_tone\t🙅🏽‍♂️\nman_gesturing_ok\t🙆‍♂️\nman_gesturing_ok_dark_skin_tone\t🙆🏿‍♂️\nman_gesturing_ok_light_skin_tone\t🙆🏻‍♂️\nman_gesturing_ok_medium-dark_skin_tone\t🙆🏾‍♂️\nman_gesturing_ok_medium-light_skin_tone\t🙆🏼‍♂️\nman_gesturing_ok_medium_skin_tone\t🙆🏽‍♂️\nman_getting_haircut\t💇‍♂️\nman_getting_haircut_dark_skin_tone\t💇🏿‍♂️\nman_getting_haircut_light_skin_tone\t💇🏻‍♂️\nman_getting_haircut_medium-dark_skin_tone\t💇🏾‍♂️\n",
    "man_getting_haircut_medium-light_skin_tone\t💇🏼‍♂️\nman_getting_haircut_medium_skin_tone\t💇🏽‍♂️\nman_getting_massage\t💆‍♂️\nman_getting_massage_dark_skin_tone\t💆🏿‍♂️\nman_getting_massage_light_skin_tone\t💆🏻‍♂️\nman_getting_massage_medium-dark_skin_tone\t💆🏾‍♂️\nman_getting_massage_medium-light_skin_tone\t💆🏼‍♂️\nman_getting_massage_medium_skin_tone\t💆🏽‍♂️\nman_golfing\t🏌️‍♂️\nman_golfing_dark_skin_tone\t🏌🏿‍♂️\nman_golfing_light_skin_tone\t🏌🏻‍♂️\nman_golfing_medium-dark_skin_tone\t🏌🏾‍♂️\nman_golfing_medium-light_skin_tone\t🏌🏼‍♂️\nman_golfing_medium_skin_tone\t🏌🏽‍♂️\nman_guard\t💂‍♂️\nman_guard_dark_skin_tone\t💂🏿‍♂️\nman_guard_light_skin_tone\t💂🏻‍♂️\nman_guard_medium-dark_skin_tone\t💂🏾‍♂️\nman_guard_medium-light_skin_tone\t💂🏼‍♂️\nman_guard_medium_skin_tone\t💂🏽‍♂️\nman_health_worker\t👨‍⚕️\nman_health_worker_dark_skin_tone\t👨🏿‍⚕️\nman_health_worker_light_skin_tone\t👨🏻‍⚕️\nman_health_worker_medium-dark_skin_tone\t👨🏾‍⚕️\nman_health_worker_medium-light_skin_tone\t👨🏼‍⚕️\nman_health_worker_medium_skin_tone\t👨🏽‍⚕️\nman_in_business_suit_levitating\t🕴\n",
    "man_in_lotus_position\t🧘‍♂️\nman_in_lotus_position_dark_skin_tone\t🧘🏿‍♂️\nman_in_lotus_position_light_skin_tone\t🧘🏻‍♂️\nman_in_lotus_position_medium-dark_skin_tone\t🧘🏾‍♂️\nman_in_lotus_position_medium-light_skin_tone\t🧘🏼‍♂️\nman_in_lotus_position_medium_skin_tone\t🧘🏽‍♂️\nman_in_manual_wheelchair\t👨‍🦽\nman_in_motorized_wheelchair\t👨‍🦼\nman_in_steamy_room\t🧖‍♂️\nman_in_steamy_room_dark_skin_tone\t🧖🏿‍♂️\nman_in_steamy_room_light_skin_tone\t🧖🏻‍♂️\nman_in_steamy_room_medium-dark_skin_tone\t🧖🏾‍♂️\nman_in_steamy_room_medium-light_skin_tone\t🧖🏼‍♂️\nman_in_steamy_room_medium_skin_tone\t🧖🏽‍♂️\nman_in_suit_levitating\t🕴\nman_in_suit_levitating_dark_skin_tone\t🕴🏿\nman_in_suit_levitating_light_skin_tone\t🕴🏻\nman_in_suit_levitating_medium-dark_skin_tone\t🕴🏾\nman_in_suit_levitating_medium-light_skin_tone\t🕴🏼\nman_in_suit_levitating_medium_skin_tone\t🕴🏽\nman_in_tuxedo\t🤵\nman_in_tuxedo_dark_skin_tone\t🤵🏿\nman_in_tuxedo_light_skin_tone\t🤵🏻\nman_in_tuxedo_medium-dark_skin_tone\t🤵🏾\nman_in_tuxedo_medium-light_skin_tone\t🤵🏼\n",
    "man_in_tuxedo_medium_skin_tone\t🤵🏽\nman_judge\t👨‍⚖️\nman_judge_dark_skin_tone\t👨🏿‍⚖️\nman_judge_light_skin_tone\t👨🏻‍⚖️\nman_judge_medium-dark_skin_tone\t👨🏾‍⚖️\nman_judge_medium-light_skin_tone\t👨🏼‍⚖️\nman_judge_medium_skin_tone\t👨🏽‍⚖️\nman_juggling\t🤹‍♂️\nman_juggling_dark_skin_tone\t🤹🏿‍♂️\nman_juggling_light_skin_tone\t🤹🏻‍♂️\nman_juggling_medium-dark_skin_tone\t🤹🏾‍♂️\nman_juggling_medium-light_skin_tone\t🤹🏼‍♂️\nman_juggling_medium_skin_tone\t🤹🏽‍♂️\nman_lifting_weights\t🏋️‍♂️\nman_lifting_weights_dark_skin_tone\t🏋🏿‍♂️\nman_lifting_weights_light_skin_tone\t🏋🏻‍♂️\nman_lifting_weights_medium-dark_skin_tone\t🏋🏾‍♂️\nman_lifting_weights_medium-light_skin_tone\t🏋🏼‍♂️\nman_lifting_weights_medium_skin_tone\t🏋🏽‍♂️\nman_light_skin_tone\t👨🏻\nman_mage\t🧙‍♂️\nman_mage_dark_skin_tone\t🧙🏿‍♂️\nman_mage_light_skin_tone\t🧙🏻‍♂️\nman_mage_medium-dark_skin_tone\t🧙🏾‍♂️\nman_mage_medium-light_skin_tone\t🧙🏼‍♂️\nman_mage_medium_skin_tone\t🧙🏽‍♂️\nman_mechanic\t👨‍🔧\nman_mechanic_dark_skin_tone\t👨🏿‍🔧\nman_mechanic_light_skin_tone\t👨🏻‍🔧\n",
    "man_mechanic_medium-dark_skin_tone\t👨🏾‍🔧\nman_mechanic_medium-light_skin_tone\t👨🏼‍🔧\nman_mechanic_medium_skin_tone\t👨🏽‍🔧\nman_medium-dark_skin_tone\t👨🏾\nman_medium-light_skin_tone\t👨🏼\nman_medium_skin_tone\t👨🏽\nman_mountain_biking\t🚵‍♂️\nman_mountain_biking_dark_skin_tone\t🚵🏿‍♂️\nman_mountain_biking_light_skin_tone\t🚵🏻‍♂️\nman_mountain_biking_medium-dark_skin_tone\t🚵🏾‍♂️\nman_mountain_biking_medium-light_skin_tone\t🚵🏼‍♂️\nman_mountain_biking_medium_skin_tone\t🚵🏽‍♂️\nman_office_worker\t👨‍💼\nman_office_worker_dark_skin_tone\t👨🏿‍💼\nman_office_worker_light_skin_tone\t👨🏻‍💼\nman_office_worker_medium-dark_skin_tone\t👨🏾‍💼\nman_office_worker_medium-light_skin_tone\t👨🏼‍💼\nman_office_worker_medium_skin_tone\t👨🏽‍💼\nman_pilot\t👨‍✈️\nman_pilot_dark_skin_tone\t👨🏿‍✈️\nman_pilot_light_skin_tone\t👨🏻‍✈️\nman_pilot_medium-dark_skin_tone\t👨🏾‍✈️\nman_pilot_medium-light_skin_tone\t👨🏼‍✈️\nman_pilot_medium_skin_tone\t👨🏽‍✈️\nman_playing_handball\t🤾‍♂️\nman_playing_handball_dark_skin_tone\t🤾🏿‍♂️\nman_playing_handball_light_skin_tone\t🤾🏻‍♂️\n",
    "man_playing_handball_medium-dark_skin_tone\t🤾🏾‍♂️\nman_playing_handball_medium-light_skin_tone\t🤾🏼‍♂️\nman_playing_handball_medium_skin_tone\t🤾🏽‍♂️\nman_playing_water_polo\t🤽‍♂️\nman_playing_water_polo_dark_skin_tone\t🤽🏿‍♂️\nman_playing_water_polo_light_skin_tone\t🤽🏻‍♂️\nman_playing_water_polo_medium-dark_skin_tone\t🤽🏾‍♂️\nman_playing_water_polo_medium-light_skin_tone\t🤽🏼‍♂️\nman_playing_water_polo_medium_skin_tone\t🤽🏽‍♂️\nman_police_officer\t👮‍♂️\nman_police_officer_dark_skin_tone\t👮🏿‍♂️\nman_police_officer_light_skin_tone\t👮🏻‍♂️\nman_police_officer_medium-dark_skin_tone\t👮🏾‍♂️\nman_police_officer_medium-light_skin_tone\t👮🏼‍♂️\nman_police_officer_medium_skin_tone\t👮🏽‍♂️\nman_pouting\t🙎‍♂️\nman_pouting_dark_skin_tone\t🙎🏿‍♂️\nman_pouting_light_skin_tone\t🙎🏻‍♂️\nman_pouting_medium-dark_skin_tone\t🙎🏾‍♂️\nman_pouting_medium-light_skin_tone\t🙎🏼‍♂️\nman_pouting_medium_skin_tone\t🙎🏽‍♂️\nman_raising_hand\t🙋‍♂️\nman_raising_hand_dark_skin_tone\t🙋🏿‍♂️\nman_raising_hand_light_skin_tone\t🙋🏻‍♂️\nman_raising_hand_medium-dark_skin_tone\t🙋🏾‍♂️\n",
    "man_raising_hand_medium-light_skin_tone\t🙋🏼‍♂️\nman_raising_hand_medium_skin_tone\t🙋🏽‍♂️\nman_rowing_boat\t🚣‍♂️\nman_rowing_boat_dark_skin_tone\t🚣🏿‍♂️\nman_rowing_boat_light_skin_tone\t🚣🏻‍♂️\nman_rowing_boat_medium-dark_skin_tone\t🚣🏾‍♂️\nman_rowing_boat_medium-light_skin_tone\t🚣🏼‍♂️\nman_rowing_boat_medium_skin_tone\t🚣🏽‍♂️\nman_running\t🏃‍♂️\nman_running_dark_skin_tone\t🏃🏿‍♂️\nman_running_light_skin_tone\t🏃🏻‍♂️\nman_running_medium-dark_skin_tone\t🏃🏾‍♂️\nman_running_medium-light_skin_tone\t🏃🏼‍♂️\nman_running_medium_skin_tone\t🏃🏽‍♂️\nman_scientist\t👨‍🔬\nman_scientist_dark_skin_tone\t👨🏿‍🔬\nman_scientist_light_skin_tone\t👨🏻‍🔬\nman_scientist_medium-dark_skin_tone\t👨🏾‍🔬\nman_scientist_medium-light_skin_tone\t👨🏼‍🔬\nman_scientist_medium_skin_tone\t👨🏽‍🔬\nman_shrugging\t🤷‍♂️\nman_shrugging_dark_skin_tone\t🤷🏿‍♂️\nman_shrugging_light_skin_tone\t🤷🏻‍♂️\nman_shrugging_medium-dark_skin_tone\t🤷🏾‍♂️\nman_shrugging_medium-light_skin_tone\t🤷🏼‍♂️\nman_shrugging_medium_skin_tone\t🤷🏽‍♂️\nman_singer\t👨‍🎤\nman_singer_dark_skin_tone\t👨🏿‍🎤\n",
    "man_singer_light_skin_tone\t👨🏻‍🎤\nman_singer_medium-dark_skin_tone\t👨🏾‍🎤\nman_singer_medium-light_skin_tone\t👨🏼‍🎤\nman_singer_medium_skin_tone\t👨🏽‍🎤\nman_student\t👨‍🎓\nman_student_dark_skin_tone\t👨🏿‍🎓\nman_student_light_skin_tone\t👨🏻‍🎓\nman_student_medium-dark_skin_tone\t👨🏾‍🎓\nman_student_medium-light_skin_tone\t👨🏼‍🎓\nman_student_medium_skin_tone\t👨🏽‍🎓\nman_surfing\t🏄‍♂️\nman_surfing_dark_skin_tone\t🏄🏿‍♂️\nman_surfing_light_skin_tone\t🏄🏻‍♂️\nman_surfing_medium-dark_skin_tone\t🏄🏾‍♂️\nman_surfing_medium-light_skin_tone\t🏄🏼‍♂️\nman_surfing_medium_skin_tone\t🏄🏽‍♂️\nman_swimming\t🏊‍♂️\nman_swimming_dark_skin_tone\t🏊🏿‍♂️\nman_swimming_light_skin_tone\t🏊🏻‍♂️\nman_swimming_medium-dark_skin_tone\t🏊🏾‍♂️\nman_swimming_medium-light_skin_tone\t🏊🏼‍♂️\nman_swimming_medium_skin_tone\t🏊🏽‍♂️\nman_teacher\t👨‍🏫\nman_teacher_dark_skin_tone\t👨🏿‍🏫\nman_teacher_light_skin_tone\t👨🏻‍🏫\nman_teacher_medium-dark_skin_tone\t👨🏾‍🏫\nman_teacher_medium-light_skin_tone\t👨🏼‍🏫\nman_teacher_medium_skin_tone\t👨🏽‍🏫\nman_technologist\t👨‍💻\nman_technologist_dark_skin_tone\t👨🏿‍💻\n",
    "man_technologist_light_skin_tone\t👨🏻‍💻\nman_technologist_medium-dark_skin_tone\t👨🏾‍💻\nman_technologist_medium-light_skin_tone\t👨🏼‍💻\nman_technologist_medium_skin_tone\t👨🏽‍💻\nman_tipping_hand\t💁‍♂️\nman_tipping_hand_dark_skin_tone\t💁🏿‍♂️\nman_tipping_hand_light_skin_tone\t💁🏻‍♂️\nman_tipping_hand_medium-dark_skin_tone\t💁🏾‍♂️\nman_tipping_hand_medium-light_skin_tone\t💁🏼‍♂️\nman_tipping_hand_medium_skin_tone\t💁🏽‍♂️\nman_vampire\t🧛‍♂️\nman_vampire_dark_skin_tone\t🧛🏿‍♂️\nman_vampire_light_skin_tone\t🧛🏻‍♂️\nman_vampire_medium-dark_skin_tone\t🧛🏾‍♂️\nman_vampire_medium-light_skin_tone\t🧛🏼‍♂️\nman_vampire_medium_skin_tone\t🧛🏽‍♂️\nman_walking\t🚶‍♂️\nman_walking_dark_skin_tone\t🚶🏿‍♂️\nman_walking_light_skin_tone\t🚶🏻‍♂️\nman_walking_medium-dark_skin_tone\t🚶🏾‍♂️\nman_walking_medium-light_skin_tone\t🚶🏼‍♂️\nman_walking_medium_skin_tone\t🚶🏽‍♂️\nman_wearing_turban\t👳‍♂️\nman_wearing_turban_dark_skin_tone\t👳🏿‍♂️\nman_wearing_turban_light_skin_tone\t👳🏻‍♂️\nman_wearing_turban_medium-dark_skin_tone\t👳🏾‍♂️\nman_wearing_turban_medium-light_skin_tone\t👳🏼‍♂️\n",
    "man_wearing_turban_medium_skin_tone\t👳🏽‍♂️\nman_with_chinese_cap\t👲\nman_with_chinese_cap_dark_skin_tone\t👲🏿\nman_with_chinese_cap_light_skin_tone\t👲🏻\nman_with_chinese_cap_medium-dark_skin_tone\t👲🏾\nman_with_chinese_cap_medium-light_skin_tone\t👲🏼\nman_with_chinese_cap_medium_skin_tone\t👲🏽\nman_with_gua_pi_mao\t👲\nman_with_probing_cane\t👨‍🦯\nman_with_turban\t👳\nman_zombie\t🧟‍♂️\nmango\t🥭\nmans_shoe\t👞\nmantelpiece_clock\t🕰\nmanual_wheelchair\t🦽\nman’s_shoe\t👞\nmap_of_japan\t🗾\nmaple_leaf\t🍁\nmarshall_islands\t🇲🇭\nmartial_arts_uniform\t🥋\nmartinique\t🇲🇶\nmask\t😷\nmassage\t💆\nmate\t🧉\nmauritania\t🇲🇷\nmauritius\t🇲🇺\nmayotte\t🇾🇹\nmeat_on_bone\t🍖\nmechanical_arm\t🦾\nmechanical_leg\t🦿\nmedical_symbol\t⚕\nmedium_dark_skin_tone\t🏾\nmedium_light_skin_tone\t🏼\nmedium_skin_tone\t🏽\nmega\t📣\nmegaphone\t📣\nmelon\t🍈\nmemo\t📝\nmen_with_bunny_ears\t👯‍♂️\nmen_wrestling\t🤼‍♂️\nmenorah\t🕎\nmenorah_with_nine_branches\t🕎\nmens\t🚹\nmen’s_room\t🚹\nmermaid\t🧜‍♀️\nmermaid_dark_skin_tone\t🧜🏿‍♀️\nmermaid_light_skin_tone\t🧜🏻‍♀️\nmermaid_medium-dark_skin_tone\t🧜🏾‍♀️\nmermaid_medium-light_skin_tone\t🧜🏼‍♀️\n",
    "mermaid_medium_skin_tone\t🧜🏽‍♀️\nmerman\t🧜‍♂️\nmerman_dark_skin_tone\t🧜🏿‍♂️\nmerman_light_skin_tone\t🧜🏻‍♂️\nmerman_medium-dark_skin_tone\t🧜🏾‍♂️\nmerman_medium-light_skin_tone\t🧜🏼‍♂️\nmerman_medium_skin_tone\t🧜🏽‍♂️\nmerperson\t🧜\nmerperson_dark_skin_tone\t🧜🏿\nmerperson_light_skin_tone\t🧜🏻\nmerperson_medium-dark_skin_tone\t🧜🏾\nmerperson_medium-light_skin_tone\t🧜🏼\nmerperson_medium_skin_tone\t🧜🏽\nmetro\t🚇\nmexico\t🇲🇽\nmicrobe\t🦠\nmicronesia\t🇫🇲\nmicrophone\t🎤\nmicroscope\t🔬\nmiddle_finger\t🖕\nmiddle_finger_dark_skin_tone\t🖕🏿\nmiddle_finger_light_skin_tone\t🖕🏻\nmiddle_finger_medium-dark_skin_tone\t🖕🏾\nmiddle_finger_medium-light_skin_tone\t🖕🏼\nmiddle_finger_medium_skin_tone\t🖕🏽\nmilitary_medal\t🎖\nmilky_way\t🌌\nminibus\t🚐\nminidisc\t💽\nmoai\t🗿\nmobile_phone\t📱\nmobile_phone_off\t📴\nmobile_phone_with_arrow\t📲\nmoldova\t🇲🇩\nmonaco\t🇲🇨\nmoney-mouth_face\t🤑\nmoney__mouth_face\t🤑\nmoney_bag\t💰\nmoney_with_wings\t💸\nmoneybag\t💰\nmongolia\t🇲🇳\nmonkey\t🐒\nmonkey_face\t🐵\nmonorail\t🚝\nmontenegro\t🇲🇪\nmontserrat\t🇲🇸\nmoon\t🌔\nmoon_cake\t🥮\nmoon_viewing_ceremony\t🎑\nmorocco\t🇲🇦\nmortar_board\t🎓\n",
    "mosque\t🕌\nmosquito\t🦟\nmotor_boat\t🛥\nmotor_scooter\t🛵\nmotorcycle\t🏍\nmotorized_wheelchair\t🦼\nmotorway\t🛣\nmount_fuji\t🗻\nmountain\t⛰\nmountain_bicyclist\t🚵\nmountain_cableway\t🚠\nmountain_railway\t🚞\nmouse\t🐭\nmouse2\t🐁\nmouse_face\t🐭\nmouth\t👄\nmovie_camera\t🎥\nmoyai\t🗿\nmozambique\t🇲🇿\nmrs._claus\t🤶\nmrs._claus_dark_skin_tone\t🤶🏿\nmrs._claus_light_skin_tone\t🤶🏻\nmrs._claus_medium-dark_skin_tone\t🤶🏾\nmrs._claus_medium-light_skin_tone\t🤶🏼\nmrs._claus_medium_skin_tone\t🤶🏽\nmuscle\t💪\nmushroom\t🍄\nmusical_keyboard\t🎹\nmusical_note\t🎵\nmusical_notes\t🎶\nmusical_score\t🎼\nmute\t🔇\nmuted_speaker\t🔇\nmyanmar_(burma)\t🇲🇲\nnail_care\t💅\nnail_polish\t💅\nnail_polish_dark_skin_tone\t💅🏿\nnail_polish_light_skin_tone\t💅🏻\nnail_polish_medium-dark_skin_tone\t💅🏾\nnail_polish_medium-light_skin_tone\t💅🏼\nnail_polish_medium_skin_tone\t💅🏽\nname_badge\t📛\nnamibia\t🇳🇦\nnational_park\t🏞\nnauru\t🇳🇷\nnauseated_face\t🤢\nnazar_amulet\t🧿\nnecktie\t👔\nnegative_squared_cross_mark\t❎\nnepal\t🇳🇵\nnerd_face\t🤓\nnetherlands\t🇳🇱\nneutral_face\t😐\nnew\t🆕\nnew_button\t🆕\nnew_caledonia\t🇳🇨\nnew_moon\t🌑\nnew_moon_face\t🌚\n",
    "new_moon_with_face\t🌚\nnew_zealand\t🇳🇿\nnewspaper\t📰\nnext_track_button\t⏭\nng\t🆖\nng_button\t🆖\nnicaragua\t🇳🇮\nniger\t🇳🇪\nnigeria\t🇳🇬\nnight_with_stars\t🌃\nnine\t9️⃣\nnine-thirty\t🕤\nnine_o’clock\t🕘\nniue\t🇳🇺\nno_bell\t🔕\nno_bicycles\t🚳\nno_entry\t⛔\nno_entry_sign\t🚫\nno_good\t🙅\nno_littering\t🚯\nno_mobile_phones\t📵\nno_mouth\t😶\nno_one_under_eighteen\t🔞\nno_pedestrians\t🚷\nno_smoking\t🚭\nnon-potable_water\t🚱\nnon__potable_water\t🚱\nnorfolk_island\t🇳🇫\nnorth_korea\t🇰🇵\nnorthern_mariana_islands\t🇲🇵\nnorway\t🇳🇴\nnose\t👃\nnose_dark_skin_tone\t👃🏿\nnose_light_skin_tone\t👃🏻\nnose_medium-dark_skin_tone\t👃🏾\nnose_medium-light_skin_tone\t👃🏼\nnose_medium_skin_tone\t👃🏽\nnotebook\t📓\nnotebook_with_decorative_cover\t📔\nnotes\t🎶\nnut_and_bolt\t🔩\no\t⭕\no2\t🅾\no_button_(blood_type)\t🅾\nocean\t🌊\noctopus\t🐙\noden\t🍢\noffice\t🏢\noffice_building\t🏢\nogre\t👹\noil_drum\t🛢\nok\t🆗\nok_button\t🆗\nok_hand\t👌\nok_hand_dark_skin_tone\t👌🏿\nok_hand_light_skin_tone\t👌🏻\nok_hand_medium-dark_skin_tone\t👌🏾\nok_hand_medium-light_skin_tone\t👌🏼\nok_hand_medium_skin_tone\t👌🏽\nok_woman\t🙆\nold_key\t🗝\nold_man\t👴\nold_man_dark_skin_tone\t👴🏿\n",
    "old_man_light_skin_tone\t👴🏻\nold_man_medium-dark_skin_tone\t👴🏾\nold_man_medium-light_skin_tone\t👴🏼\nold_man_medium_skin_tone\t👴🏽\nold_woman\t👵\nold_woman_dark_skin_tone\t👵🏿\nold_woman_light_skin_tone\t👵🏻\nold_woman_medium-dark_skin_tone\t👵🏾\nold_woman_medium-light_skin_tone\t👵🏼\nold_woman_medium_skin_tone\t👵🏽\nolder_adult\t🧓\nolder_adult_dark_skin_tone\t🧓🏿\nolder_adult_light_skin_tone\t🧓🏻\nolder_adult_medium-dark_skin_tone\t🧓🏾\nolder_adult_medium-light_skin_tone\t🧓🏼\nolder_adult_medium_skin_tone\t🧓🏽\nolder_man\t👴\nolder_woman\t👵\nom\t🕉\nom_symbol\t🕉\noman\t🇴🇲\non\t🔛\non!_arrow\t🔛\noncoming_automobile\t🚘\noncoming_bus\t🚍\noncoming_fist\t👊\noncoming_fist_dark_skin_tone\t👊🏿\noncoming_fist_light_skin_tone\t👊🏻\noncoming_fist_medium-dark_skin_tone\t👊🏾\noncoming_fist_medium-light_skin_tone\t👊🏼\noncoming_fist_medium_skin_tone\t👊🏽\noncoming_police_car\t🚔\noncoming_taxi\t🚖\none\t1️⃣\none-piece_swimsuit\t🩱\none-thirty\t🕜\none_o’clock\t🕐\nonion\t🧅\nopen_book\t📖\nopen_file_folder\t📂\nopen_hands\t👐\nopen_hands_dark_skin_tone\t👐🏿\nopen_hands_light_skin_tone\t👐🏻\n",
    "open_hands_medium-dark_skin_tone\t👐🏾\nopen_hands_medium-light_skin_tone\t👐🏼\nopen_hands_medium_skin_tone\t👐🏽\nopen_mailbox_with_lowered_flag\t📭\nopen_mailbox_with_raised_flag\t📬\nopen_mouth\t😮\nophiuchus\t⛎\noptical_disk\t💿\norange_book\t📙\norange_circle\t🟠\norange_heart\t🧡\norange_square\t🟧\norangutan\t🦧\northodox_cross\t☦\notter\t🦦\noutbox_tray\t📤\nowl\t🦉\nox\t🐂\noyster\t🦪\np_button\t🅿\npackage\t📦\npage_facing_up\t📄\npage_with_curl\t📃\npager\t📟\npaintbrush\t🖌\npakistan\t🇵🇰\npalau\t🇵🇼\npalestinian_territories\t🇵🇸\npalm_tree\t🌴\npalms_up_together\t🤲\npalms_up_together_dark_skin_tone\t🤲🏿\npalms_up_together_light_skin_tone\t🤲🏻\npalms_up_together_medium-dark_skin_tone\t🤲🏾\npalms_up_together_medium-light_skin_tone\t🤲🏼\npalms_up_together_medium_skin_tone\t🤲🏽\npanama\t🇵🇦\npancakes\t🥞\npanda_face\t🐼\npaperclip\t📎\npapua_new_guinea\t🇵🇬\nparaguay\t🇵🇾\nparking\t🅿\nparrot\t🦜\npart_alternation_mark\t〽\npartly_sunny\t⛅\nparty_popper\t🎉\npartying_face\t🥳\npassenger_ship\t🛳\npassport_control\t🛂\npause_button\t⏸\npaw_prints\t🐾\npeace_symbol\t☮\npeach\t🍑\npeacock\t🦚\npeanuts\t🥜\npear\t🍐\npen\t🖊\npencil\t📝\n",
    "pencil2\t✏\npenguin\t🐧\npensive\t😔\npensive_face\t😔\npeople_holding_hands\t🧑‍🤝‍🧑\npeople_with_bunny_ears\t👯\npeople_wrestling\t🤼\nperforming_arts\t🎭\npersevere\t😣\npersevering_face\t😣\nperson_biking\t🚴\nperson_biking_dark_skin_tone\t🚴🏿\nperson_biking_light_skin_tone\t🚴🏻\nperson_biking_medium-dark_skin_tone\t🚴🏾\nperson_biking_medium-light_skin_tone\t🚴🏼\nperson_biking_medium_skin_tone\t🚴🏽\nperson_bouncing_ball\t⛹\nperson_bouncing_ball_dark_skin_tone\t⛹🏿\nperson_bouncing_ball_light_skin_tone\t⛹🏻\nperson_bouncing_ball_medium-dark_skin_tone\t⛹🏾\nperson_bouncing_ball_medium-light_skin_tone\t⛹🏼\nperson_bouncing_ball_medium_skin_tone\t⛹🏽\nperson_bowing\t🙇\nperson_bowing_dark_skin_tone\t🙇🏿\nperson_bowing_light_skin_tone\t🙇🏻\nperson_bowing_medium-dark_skin_tone\t🙇🏾\nperson_bowing_medium-light_skin_tone\t🙇🏼\nperson_bowing_medium_skin_tone\t🙇🏽\nperson_cartwheeling\t🤸\nperson_cartwheeling_dark_skin_tone\t🤸🏿\nperson_cartwheeling_light_skin_tone\t🤸🏻\nperson_cartwheeling_medium-dark_skin_tone\t🤸🏾\nperson_cartwheeling_medium-light_skin_tone\t🤸🏼\n",
    "person_cartwheeling_medium_skin_tone\t🤸🏽\nperson_climbing\t🧗\nperson_climbing_dark_skin_tone\t🧗🏿\nperson_climbing_light_skin_tone\t🧗🏻\nperson_climbing_medium-dark_skin_tone\t🧗🏾\nperson_climbing_medium-light_skin_tone\t🧗🏼\nperson_climbing_medium_skin_tone\t🧗🏽\nperson_facepalming\t🤦\nperson_facepalming_dark_skin_tone\t🤦🏿\nperson_facepalming_light_skin_tone\t🤦🏻\nperson_facepalming_medium-dark_skin_tone\t🤦🏾\nperson_facepalming_medium-light_skin_tone\t🤦🏼\nperson_facepalming_medium_skin_tone\t🤦🏽\nperson_fencing\t🤺\nperson_frowning\t🙍\nperson_frowning_dark_skin_tone\t🙍🏿\nperson_frowning_light_skin_tone\t🙍🏻\nperson_frowning_medium-dark_skin_tone\t🙍🏾\nperson_frowning_medium-light_skin_tone\t🙍🏼\nperson_frowning_medium_skin_tone\t🙍🏽\nperson_gesturing_no\t🙅\nperson_gesturing_no_dark_skin_tone\t🙅🏿\nperson_gesturing_no_light_skin_tone\t🙅🏻\nperson_gesturing_no_medium-dark_skin_tone\t🙅🏾\nperson_gesturing_no_medium-light_skin_tone\t🙅🏼\nperson_gesturing_no_medium_skin_tone\t🙅🏽\nperson_gesturing_ok\t🙆\nperson_gesturing_ok_dark_skin_tone\t🙆🏿\n",
    "person_gesturing_ok_light_skin_tone\t🙆🏻\nperson_gesturing_ok_medium-dark_skin_tone\t🙆🏾\nperson_gesturing_ok_medium-light_skin_tone\t🙆🏼\nperson_gesturing_ok_medium_skin_tone\t🙆🏽\nperson_getting_haircut\t💇\nperson_getting_haircut_dark_skin_tone\t💇🏿\nperson_getting_haircut_light_skin_tone\t💇🏻\nperson_getting_haircut_medium-dark_skin_tone\t💇🏾\nperson_getting_haircut_medium-light_skin_tone\t💇🏼\nperson_getting_haircut_medium_skin_tone\t💇🏽\nperson_getting_massage\t💆\nperson_getting_massage_dark_skin_tone\t💆🏿\nperson_getting_massage_light_skin_tone\t💆🏻\nperson_getting_massage_medium-dark_skin_tone\t💆🏾\nperson_getting_massage_medium-light_skin_tone\t💆🏼\nperson_getting_massage_medium_skin_tone\t💆🏽\nperson_golfing\t🏌\nperson_golfing_dark_skin_tone\t🏌🏿\nperson_golfing_light_skin_tone\t🏌🏻\nperson_golfing_medium-dark_skin_tone\t🏌🏾\nperson_golfing_medium-light_skin_tone\t🏌🏼\nperson_golfing_medium_skin_tone\t🏌🏽\nperson_in_bed\t🛌\nperson_in_bed_dark_skin_tone\t🛌🏿\nperson_in_bed_light_skin_tone\t🛌🏻\nperson_in_bed_medium-dark_skin_tone\t🛌🏾\n",
    "person_in_bed_medium-light_skin_tone\t🛌🏼\nperson_in_bed_medium_skin_tone\t🛌🏽\nperson_in_lotus_position\t🧘\nperson_in_lotus_position_dark_skin_tone\t🧘🏿\nperson_in_lotus_position_light_skin_tone\t🧘🏻\nperson_in_lotus_position_medium-dark_skin_tone\t🧘🏾\nperson_in_lotus_position_medium-light_skin_tone\t🧘🏼\nperson_in_lotus_position_medium_skin_tone\t🧘🏽\nperson_in_steamy_room\t🧖\nperson_in_steamy_room_dark_skin_tone\t🧖🏿\nperson_in_steamy_room_light_skin_tone\t🧖🏻\nperson_in_steamy_room_medium-dark_skin_tone\t🧖🏾\nperson_in_steamy_room_medium-light_skin_tone\t🧖🏼\nperson_in_steamy_room_medium_skin_tone\t🧖🏽\nperson_juggling\t🤹\nperson_juggling_dark_skin_tone\t🤹🏿\nperson_juggling_light_skin_tone\t🤹🏻\nperson_juggling_medium-dark_skin_tone\t🤹🏾\nperson_juggling_medium-light_skin_tone\t🤹🏼\nperson_juggling_medium_skin_tone\t🤹🏽\nperson_kneeling\t🧎\nperson_lifting_weights\t🏋\nperson_lifting_weights_dark_skin_tone\t🏋🏿\nperson_lifting_weights_light_skin_tone\t🏋🏻\nperson_lifting_weights_medium-dark_skin_tone\t🏋🏾\n",
    "person_lifting_weights_medium-light_skin_tone\t🏋🏼\nperson_lifting_weights_medium_skin_tone\t🏋🏽\nperson_mountain_biking\t🚵\nperson_mountain_biking_dark_skin_tone\t🚵🏿\nperson_mountain_biking_light_skin_tone\t🚵🏻\nperson_mountain_biking_medium-dark_skin_tone\t🚵🏾\nperson_mountain_biking_medium-light_skin_tone\t🚵🏼\nperson_mountain_biking_medium_skin_tone\t🚵🏽\nperson_playing_handball\t🤾\nperson_playing_handball_dark_skin_tone\t🤾🏿\nperson_playing_handball_light_skin_tone\t🤾🏻\nperson_playing_handball_medium-dark_skin_tone\t🤾🏾\nperson_playing_handball_medium-light_skin_tone\t🤾🏼\nperson_playing_handball_medium_skin_tone\t🤾🏽\nperson_playing_water_polo\t🤽\nperson_playing_water_polo_dark_skin_tone\t🤽🏿\nperson_playing_water_polo_light_skin_tone\t🤽🏻\nperson_playing_water_polo_medium-dark_skin_tone\t🤽🏾\nperson_playing_water_polo_medium-light_skin_tone\t🤽🏼\nperson_playing_water_polo_medium_skin_tone\t🤽🏽\nperson_pouting\t🙎\nperson_pouting_dark_skin_tone\t🙎🏿\nperson_pouting_light_skin_tone\t🙎🏻\nperson_pouting_medium-dark_skin_tone\t🙎🏾\n",
    "person_pouting_medium-light_skin_tone\t🙎🏼\nperson_pouting_medium_skin_tone\t🙎🏽\nperson_raising_hand\t🙋\nperson_raising_hand_dark_skin_tone\t🙋🏿\nperson_raising_hand_light_skin_tone\t🙋🏻\nperson_raising_hand_medium-dark_skin_tone\t🙋🏾\nperson_raising_hand_medium-light_skin_tone\t🙋🏼\nperson_raising_hand_medium_skin_tone\t🙋🏽\nperson_rowing_boat\t🚣\nperson_rowing_boat_dark_skin_tone\t🚣🏿\nperson_rowing_boat_light_skin_tone\t🚣🏻\nperson_rowing_boat_medium-dark_skin_tone\t🚣🏾\nperson_rowing_boat_medium-light_skin_tone\t🚣🏼\nperson_rowing_boat_medium_skin_tone\t🚣🏽\nperson_running\t🏃\nperson_running_dark_skin_tone\t🏃🏿\nperson_running_light_skin_tone\t🏃🏻\nperson_running_medium-dark_skin_tone\t🏃🏾\nperson_running_medium-light_skin_tone\t🏃🏼\nperson_running_medium_skin_tone\t🏃🏽\nperson_shrugging\t🤷\nperson_shrugging_dark_skin_tone\t🤷🏿\nperson_shrugging_light_skin_tone\t🤷🏻\nperson_shrugging_medium-dark_skin_tone\t🤷🏾\nperson_shrugging_medium-light_skin_tone\t🤷🏼\nperson_shrugging_medium_skin_tone\t🤷🏽\nperson_standing\t🧍\nperson_surfing\t🏄\n",
    "person_surfing_dark_skin_tone\t🏄🏿\nperson_surfing_light_skin_tone\t🏄🏻\nperson_surfing_medium-dark_skin_tone\t🏄🏾\nperson_surfing_medium-light_skin_tone\t🏄🏼\nperson_surfing_medium_skin_tone\t🏄🏽\nperson_swimming\t🏊\nperson_swimming_dark_skin_tone\t🏊🏿\nperson_swimming_light_skin_tone\t🏊🏻\nperson_swimming_medium-dark_skin_tone\t🏊🏾\nperson_swimming_medium-light_skin_tone\t🏊🏼\nperson_swimming_medium_skin_tone\t🏊🏽\nperson_taking_bath\t🛀\nperson_taking_bath_dark_skin_tone\t🛀🏿\nperson_taking_bath_light_skin_tone\t🛀🏻\nperson_taking_bath_medium-dark_skin_tone\t🛀🏾\nperson_taking_bath_medium-light_skin_tone\t🛀🏼\nperson_taking_bath_medium_skin_tone\t🛀🏽\nperson_tipping_hand\t💁\nperson_tipping_hand_dark_skin_tone\t💁🏿\nperson_tipping_hand_light_skin_tone\t💁🏻\nperson_tipping_hand_medium-dark_skin_tone\t💁🏾\nperson_tipping_hand_medium-light_skin_tone\t💁🏼\nperson_tipping_hand_medium_skin_tone\t💁🏽\nperson_walking\t🚶\nperson_walking_dark_skin_tone\t🚶🏿\nperson_walking_light_skin_tone\t🚶🏻\nperson_walking_medium-dark_skin_tone\t🚶🏾\n",
    "person_walking_medium-light_skin_tone\t🚶🏼\nperson_walking_medium_skin_tone\t🚶🏽\nperson_wearing_turban\t👳\nperson_wearing_turban_dark_skin_tone\t👳🏿\nperson_wearing_turban_light_skin_tone\t👳🏻\nperson_wearing_turban_medium-dark_skin_tone\t👳🏾\nperson_wearing_turban_medium-light_skin_tone\t👳🏼\nperson_wearing_turban_medium_skin_tone\t👳🏽\nperson_with_ball\t⛹\nperson_with_blond_hair\t👱\nperson_with_pouting_face\t🙎\nperu\t🇵🇪\npetri_dish\t🧫\nphilippines\t🇵🇭\nphone\t☎\npick\t⛏\npie\t🥧\npig\t🐷\npig2\t🐖\npig_face\t🐷\npig_nose\t🐽\npile_of_poo\t💩\npill\t💊\npinching_hand\t🤏\npine_decoration\t🎍\npineapple\t🍍\nping_pong\t🏓\npirate_flag\t🏴‍☠️\npisces\t♓\npistol\t🔫\npitcairn_islands\t🇵🇳\npizza\t🍕\nplace_of_worship\t🛐\nplay_button\t▶\nplay_or_pause_button\t⏯\npleading_face\t🥺\npoint_down\t👇\npoint_left\t👈\npoint_right\t👉\npoint_up\t☝\npoint_up_2\t👆\npoland\t🇵🇱\npolice_car\t🚓\npolice_car_light\t🚨\npolice_officer\t👮\npolice_officer_dark_skin_tone\t👮🏿\npolice_officer_light_skin_tone\t👮🏻\npolice_officer_medium-dark_skin_tone\t👮🏾\npolice_officer_medium-light_skin_tone\t👮🏼\n",
    "police_officer_medium_skin_tone\t👮🏽\npoodle\t🐩\npool_8_ball\t🎱\npoop\t💩\npopcorn\t🍿\nportugal\t🇵🇹\npost_office\t🏣\npostal_horn\t📯\npostbox\t📮\npot_of_food\t🍲\npotable_water\t🚰\npotato\t🥔\npouch\t👝\npoultry_leg\t🍗\npound\t💷\npound_banknote\t💷\npouting_cat\t😾\npouting_cat_face\t😾\npouting_face\t😡\npray\t🙏\nprayer_beads\t📿\npregnant_woman\t🤰\npregnant_woman_dark_skin_tone\t🤰🏿\npregnant_woman_light_skin_tone\t🤰🏻\npregnant_woman_medium-dark_skin_tone\t🤰🏾\npregnant_woman_medium-light_skin_tone\t🤰🏼\npregnant_woman_medium_skin_tone\t🤰🏽\npretzel\t🥨\nprince\t🤴\nprince_dark_skin_tone\t🤴🏿\nprince_light_skin_tone\t🤴🏻\nprince_medium-dark_skin_tone\t🤴🏾\nprince_medium-light_skin_tone\t🤴🏼\nprince_medium_skin_tone\t🤴🏽\nprincess\t👸\nprincess_dark_skin_tone\t👸🏿\nprincess_light_skin_tone\t👸🏻\nprincess_medium-dark_skin_tone\t👸🏾\nprincess_medium-light_skin_tone\t👸🏼\nprincess_medium_skin_tone\t👸🏽\nprinter\t🖨\nprobing_cane\t🦯\nprohibited\t🚫\npuerto_rico\t🇵🇷\npunch\t👊\npurple_circle\t🟣\npurple_heart\t💜\npurple_square\t🟪\npurse\t👛\npushpin\t📌\nput_litter_in_its_place\t🚮\nqatar\t🇶🇦\nquestion\t❓\nquestion_mark\t❓\n",
    "rabbit\t🐰\nrabbit2\t🐇\nrabbit_face\t🐰\nraccoon\t🦝\nracehorse\t🐎\nracing_car\t🏎\nracing_motorcycle\t🏍\nradio\t📻\nradio_button\t🔘\nradioactive\t☢\nradioactive_sign\t☢\nrage\t😡\nrailway_car\t🚃\nrailway_track\t🛤\nrainbow\t🌈\nrainbow_flag\t🏳️‍🌈\nraised_back_of_hand\t🤚\nraised_back_of_hand_dark_skin_tone\t🤚🏿\nraised_back_of_hand_light_skin_tone\t🤚🏻\nraised_back_of_hand_medium-dark_skin_tone\t🤚🏾\nraised_back_of_hand_medium-light_skin_tone\t🤚🏼\nraised_back_of_hand_medium_skin_tone\t🤚🏽\nraised_fist\t✊\nraised_fist_dark_skin_tone\t✊🏿\nraised_fist_light_skin_tone\t✊🏻\nraised_fist_medium-dark_skin_tone\t✊🏾\nraised_fist_medium-light_skin_tone\t✊🏼\nraised_fist_medium_skin_tone\t✊🏽\nraised_hand\t✋\nraised_hand_dark_skin_tone\t✋🏿\nraised_hand_light_skin_tone\t✋🏻\nraised_hand_medium-dark_skin_tone\t✋🏾\nraised_hand_medium-light_skin_tone\t✋🏼\nraised_hand_medium_skin_tone\t✋🏽\nraised_hand_with_fingers_splayed\t🖐\nraised_hand_with_part_between_middle_and_ring_fingers\t🖖\nraised_hands\t🙌\nraising_hand\t🙋\nraising_hands\t🙌\nraising_hands_dark_skin_tone\t🙌🏿\n",
    "raising_hands_light_skin_tone\t🙌🏻\nraising_hands_medium-dark_skin_tone\t🙌🏾\nraising_hands_medium-light_skin_tone\t🙌🏼\nraising_hands_medium_skin_tone\t🙌🏽\nram\t🐏\nramen\t🍜\nrat\t🐀\nrazor\t🪒\nreceipt\t🧾\nrecord_button\t⏺\nrecycle\t♻\nrecycling_symbol\t♻\nred-haired_man\t👨‍🦰\nred-haired_woman\t👩‍🦰\nred_apple\t🍎\nred_car\t🚗\nred_circle\t🔴\nred_envelope\t🧧\nred_hair\t🦰\nred_heart\t❤\nred_paper_lantern\t🏮\nred_square\t🟥\nred_triangle_pointed_down\t🔻\nred_triangle_pointed_up\t🔺\nregional_indicator_a\t🇦\nregional_indicator_b\t🇧\nregional_indicator_c\t🇨\nregional_indicator_d\t🇩\nregional_indicator_e\t🇪\nregional_indicator_f\t🇫\nregional_indicator_g\t🇬\nregional_indicator_h\t🇭\nregional_indicator_i\t🇮\nregional_indicator_j\t🇯\nregional_indicator_k\t🇰\nregional_indicator_l\t🇱\nregional_indicator_m\t🇲\nregional_indicator_n\t🇳\nregional_indicator_o\t🇴\nregional_indicator_p\t🇵\nregional_indicator_q\t🇶\nregional_indicator_r\t🇷\nregional_indicator_s\t🇸\nregional_indicator_symbol_letter_a\t🇦\nregional_indicator_symbol_letter_b\t🇧\nregional_indicator_symbol_letter_c\t🇨\n",
    "regional_indicator_symbol_letter_d\t🇩\nregional_indicator_symbol_letter_e\t🇪\nregional_indicator_symbol_letter_f\t🇫\nregional_indicator_symbol_letter_g\t🇬\nregional_indicator_symbol_letter_h\t🇭\nregional_indicator_symbol_letter_i\t🇮\nregional_indicator_symbol_letter_j\t🇯\nregional_indicator_symbol_letter_k\t🇰\nregional_indicator_symbol_letter_l\t🇱\nregional_indicator_symbol_letter_m\t🇲\nregional_indicator_symbol_letter_n\t🇳\nregional_indicator_symbol_letter_o\t🇴\nregional_indicator_symbol_letter_p\t🇵\nregional_indicator_symbol_letter_q\t🇶\nregional_indicator_symbol_letter_r\t🇷\nregional_indicator_symbol_letter_s\t🇸\nregional_indicator_symbol_letter_t\t🇹\nregional_indicator_symbol_letter_u\t🇺\nregional_indicator_symbol_letter_v\t🇻\nregional_indicator_symbol_letter_w\t🇼\nregional_indicator_symbol_letter_x\t🇽\nregional_indicator_symbol_letter_y\t🇾\nregional_indicator_symbol_letter_z\t🇿\nregional_indicator_t\t🇹\nregional_indicator_u\t🇺\nregional_indicator_v\t🇻\nregional_indicator_w\t🇼\nregional_indicator_x\t🇽\nregional_indicator_y\t🇾\n",
    "regional_indicator_z\t🇿\nregistered\t®\nrelaxed\t☺\nrelieved\t😌\nrelieved_face\t😌\nreminder_ribbon\t🎗\nrepeat\t🔁\nrepeat_button\t🔁\nrepeat_one\t🔂\nrepeat_single_button\t🔂\nrescue_worker’s_helmet\t⛑\nrestroom\t🚻\nreverse_button\t◀\nreversed_hand_with_middle_finger_extended\t🖕\nrevolving_hearts\t💞\nrewind\t⏪\nrhinoceros\t🦏\nribbon\t🎀\nrice\t🍚\nrice_ball\t🍙\nrice_cracker\t🍘\nrice_scene\t🎑\nright-facing_fist\t🤜\nright-facing_fist_dark_skin_tone\t🤜🏿\nright-facing_fist_light_skin_tone\t🤜🏻\nright-facing_fist_medium-dark_skin_tone\t🤜🏾\nright-facing_fist_medium-light_skin_tone\t🤜🏼\nright-facing_fist_medium_skin_tone\t🤜🏽\nright_anger_bubble\t🗯\nright_arrow\t➡\nright_arrow_curving_down\t⤵\nright_arrow_curving_left\t↩\nright_arrow_curving_up\t⤴\nring\t💍\nringed_planet\t🪐\nroasted_sweet_potato\t🍠\nrobot\t🤖\nrobot_face\t🤖\nrocket\t🚀\nroll_of_paper\t🧻\nrolled-up_newspaper\t🗞\nrolled__up_newspaper\t🗞\nroller_coaster\t🎢\nrolling_on_the_floor_laughing\t🤣\nromania\t🇷🇴\nrooster\t🐓\nrose\t🌹\nrosette\t🏵\nrotating_light\t🚨\nround_pushpin\t📍\nrowboat\t🚣\nrugby_football\t🏉\nrunner\t🏃\nrunning\t🏃\nrunning_shirt\t🎽\n",
    "running_shirt_with_sash\t🎽\nrunning_shoe\t👟\nrussia\t🇷🇺\nrwanda\t🇷🇼\nréunion\t🇷🇪\nsa\t🈂\nsad_but_relieved_face\t😥\nsafety_pin\t🧷\nsafety_vest\t🦺\nsagittarius\t♐\nsailboat\t⛵\nsake\t🍶\nsalt\t🧂\nsamoa\t🇼🇸\nsan_marino\t🇸🇲\nsandal\t👡\nsandwich\t🥪\nsanta\t🎅\nsanta_claus\t🎅\nsanta_claus_dark_skin_tone\t🎅🏿\nsanta_claus_light_skin_tone\t🎅🏻\nsanta_claus_medium-dark_skin_tone\t🎅🏾\nsanta_claus_medium-light_skin_tone\t🎅🏼\nsanta_claus_medium_skin_tone\t🎅🏽\nsari\t🥻\nsatellite\t📡\nsatellite_antenna\t📡\nsatisfied\t😆\nsaudi_arabia\t🇸🇦\nsauropod\t🦕\nsaxophone\t🎷\nscales\t⚖\nscarf\t🧣\nschool\t🏫\nschool_backpack\t🎒\nschool_satchel\t🎒\nscissors\t✂\nscorpio\t♏\nscorpion\t🦂\nscorpius\t♏\nscotland\t🏴󠁧󠁢󠁳󠁣󠁴󠁿\nscream\t😱\nscream_cat\t🙀\nscroll\t📜\nseat\t💺\nsecret\t㊙\nsee-no-evil_monkey\t🙈\nsee_no_evil\t🙈\nseedling\t🌱\nselfie\t🤳\nselfie_dark_skin_tone\t🤳🏿\nselfie_light_skin_tone\t🤳🏻\nselfie_medium-dark_skin_tone\t🤳🏾\nselfie_medium-light_skin_tone\t🤳🏼\nselfie_medium_skin_tone\t🤳🏽\nsenegal\t🇸🇳\nserbia\t🇷🇸\nservice_dog\t🐕‍🦺\nseven\t7️⃣\nseven-thirty\t🕢\nseven_o’clock\t🕖\nseychelles\t🇸🇨\nshallow_pan_of_food\t🥘\nshamrock\t☘\nshark\t🦈\n",
    "shaved_ice\t🍧\nsheaf_of_rice\t🌾\nsheep\t🐑\nshell\t🐚\nshield\t🛡\nshinto_shrine\t⛩\nship\t🚢\nshirt\t👕\nshit\t💩\nshoe\t👞\nshooting_star\t🌠\nshopping_bags\t🛍\nshopping_cart\t🛒\nshortcake\t🍰\nshorts\t🩳\nshower\t🚿\nshrimp\t🦐\nshuffle_tracks_button\t🔀\nshushing_face\t🤫\nsierra_leone\t🇸🇱\nsign_of_the_horns\t🤘\nsign_of_the_horns_dark_skin_tone\t🤘🏿\nsign_of_the_horns_light_skin_tone\t🤘🏻\nsign_of_the_horns_medium-dark_skin_tone\t🤘🏾\nsign_of_the_horns_medium-light_skin_tone\t🤘🏼\nsign_of_the_horns_medium_skin_tone\t🤘🏽\nsignal_strength\t📶\nsingapore\t🇸🇬\nsint_maarten\t🇸🇽\nsix\t6️⃣\nsix-thirty\t🕡\nsix_o’clock\t🕕\nsix_pointed_star\t🔯\nskateboard\t🛹\nski\t🎿\nskier\t⛷\nskis\t🎿\nskull\t💀\nskull_and_crossbones\t☠\nskunk\t🦨\nsled\t🛷\nsleeping\t😴\nsleeping_accommodation\t🛌\nsleeping_face\t😴\nsleepy\t😪\nsleepy_face\t😪\nsleuth_or_spy\t🕵\nslightly_frowning_face\t🙁\nslightly_smiling_face\t🙂\nslot_machine\t🎰\nsloth\t🦥\nslovakia\t🇸🇰\nslovenia\t🇸🇮\nsmall_airplane\t🛩\nsmall_blue_diamond\t🔹\nsmall_orange_diamond\t🔸\nsmall_red_triangle\t🔺\nsmall_red_triangle_down\t🔻\nsmile\t😄\nsmile_cat\t😸\nsmiley\t😃\nsmiley_cat\t😺\n",
    "smiling_cat_face_with_heart-eyes\t😻\nsmiling_face\t☺\nsmiling_face_with_3_hearts\t🥰\nsmiling_face_with_halo\t😇\nsmiling_face_with_heart-eyes\t😍\nsmiling_face_with_horns\t😈\nsmiling_face_with_smiling_eyes\t😊\nsmiling_face_with_sunglasses\t😎\nsmiling_imp\t😈\nsmirk\t😏\nsmirk_cat\t😼\nsmirking_face\t😏\nsmoking\t🚬\nsnail\t🐌\nsnake\t🐍\nsneezing_face\t🤧\nsnow-capped_mountain\t🏔\nsnow_capped_mountain\t🏔\nsnowboarder\t🏂\nsnowboarder_dark_skin_tone\t🏂🏿\nsnowboarder_light_skin_tone\t🏂🏻\nsnowboarder_medium-dark_skin_tone\t🏂🏾\nsnowboarder_medium-light_skin_tone\t🏂🏼\nsnowboarder_medium_skin_tone\t🏂🏽\nsnowflake\t❄\nsnowman\t☃\nsnowman_without_snow\t⛄\nsoap\t🧼\nsob\t😭\nsoccer\t⚽\nsoccer_ball\t⚽\nsocks\t🧦\nsoft_ice_cream\t🍦\nsoftball\t🥎\nsolomon_islands\t🇸🇧\nsomalia\t🇸🇴\nsoon\t🔜\nsoon_arrow\t🔜\nsos\t🆘\nsos_button\t🆘\nsound\t🔉\nsouth_africa\t🇿🇦\nsouth_georgia_&_south_sandwich_islands\t🇬🇸\nsouth_korea\t🇰🇷\nsouth_sudan\t🇸🇸\nspace_invader\t👾\nspade_suit\t♠\nspades\t♠\nspaghetti\t🍝\nspain\t🇪🇸\nsparkle\t❇\nsparkler\t🎇\nsparkles\t✨\nsparkling_heart\t💖\nspeak-no-evil_monkey\t🙊\nspeak_no_evil\t🙊\nspeaker\t🔈\n",
    "speaker_high_volume\t🔊\nspeaker_low_volume\t🔈\nspeaker_medium_volume\t🔉\nspeaking_head\t🗣\nspeaking_head_in_silhouette\t🗣\nspeech_balloon\t💬\nspeedboat\t🚤\nspider\t🕷\nspider_web\t🕸\nspiral_calendar\t🗓\nspiral_calendar_pad\t🗓\nspiral_note_pad\t🗒\nspiral_notepad\t🗒\nspiral_shell\t🐚\nsponge\t🧽\nspoon\t🥄\nsport_utility_vehicle\t🚙\nsports_medal\t🏅\nspouting_whale\t🐳\nsquid\t🦑\nsquinting_face_with_tongue\t😝\nsri_lanka\t🇱🇰\nst._barthélemy\t🇧🇱\nst._helena\t🇸🇭\nst._kitts_&_nevis\t🇰🇳\nst._lucia\t🇱🇨\nst._martin\t🇲🇫\nst._pierre_&_miquelon\t🇵🇲\nst._vincent_&_grenadines\t🇻🇨\nstadium\t🏟\nstar\t⭐\nstar-struck\t🤩\nstar2\t🌟\nstar_and_crescent\t☪\nstar_of_david\t✡\nstars\t🌠\nstation\t🚉\nstatue_of_liberty\t🗽\nsteam_locomotive\t🚂\nsteaming_bowl\t🍜\nstethoscope\t🩺\nstew\t🍲\nstop_button\t⏹\nstop_sign\t🛑\nstopwatch\t⏱\nstraight_ruler\t📏\nstrawberry\t🍓\nstuck_out_tongue\t😛\nstuck_out_tongue_closed_eyes\t😝\nstuck_out_tongue_winking_eye\t😜\nstudio_microphone\t🎙\nstuffed_flatbread\t🥙\nsudan\t🇸🇩\nsun\t☀\nsun_behind_cloud\t⛅\nsun_behind_large_cloud\t🌥\nsun_behind_rain_cloud\t🌦\nsun_behind_small_cloud\t🌤\nsun_with_face\t🌞\n",
    "sunflower\t🌻\nsunglasses\t😎\nsunny\t☀\nsunrise\t🌅\nsunrise_over_mountains\t🌄\nsunset\t🌇\nsuperhero\t🦸\nsupervillain\t🦹\nsurfer\t🏄\nsuriname\t🇸🇷\nsushi\t🍣\nsuspension_railway\t🚟\nsvalbard_&_jan_mayen\t🇸🇯\nswan\t🦢\nswaziland\t🇸🇿\nsweat\t😓\nsweat_droplets\t💦\nsweat_drops\t💦\nsweat_smile\t😅\nsweden\t🇸🇪\nsweet_potato\t🍠\nswimmer\t🏊\nswitzerland\t🇨🇭\nsymbols\t🔣\nsynagogue\t🕍\nsyria\t🇸🇾\nsyringe\t💉\nsão_tomé_&_príncipe\t🇸🇹\nt-rex\t🦖\nt-shirt\t👕\ntable_tennis_paddle_and_ball\t🏓\ntaco\t🌮\ntada\t🎉\ntaiwan\t🇹🇼\ntajikistan\t🇹🇯\ntakeout_box\t🥡\ntanabata_tree\t🎋\ntangerine\t🍊\ntanzania\t🇹🇿\ntaurus\t♉\ntaxi\t🚕\ntea\t🍵\nteacup_without_handle\t🍵\ntear-off_calendar\t📆\nteddy_bear\t🧸\ntelephone\t☎\ntelephone_receiver\t📞\ntelescope\t🔭\ntelevision\t📺\nten\t🔟\nten-thirty\t🕥\nten_o’clock\t🕙\ntennis\t🎾\ntent\t⛺\ntest_tube\t🧪\nthailand\t🇹🇭\nthermometer\t🌡\nthinking_face\t🤔\nthought_balloon\t💭\nthread\t🧵\nthree\t3️⃣\nthree-thirty\t🕞\nthree_button_mouse\t🖱\nthree_o’clock\t🕒\nthumbs_down\t👎\nthumbs_down_dark_skin_tone\t👎🏿\nthumbs_down_light_skin_tone\t👎🏻\nthumbs_down_medium-dark_skin_tone\t👎🏾\nthumbs_down_medium-light_skin_tone\t👎🏼\n",
    "thumbs_down_medium_skin_tone\t👎🏽\nthumbs_up\t👍\nthumbs_up_dark_skin_tone\t👍🏿\nthumbs_up_light_skin_tone\t👍🏻\nthumbs_up_medium-dark_skin_tone\t👍🏾\nthumbs_up_medium-light_skin_tone\t👍🏼\nthumbs_up_medium_skin_tone\t👍🏽\nthumbsdown\t👎\nthumbsup\t👍\nthunder_cloud_and_rain\t⛈\nticket\t🎫\ntiger\t🐯\ntiger2\t🐅\ntiger_face\t🐯\ntimer_clock\t⏲\ntimor-leste\t🇹🇱\ntired_face\t😫\ntm\t™\ntogo\t🇹🇬\ntoilet\t🚽\ntokelau\t🇹🇰\ntokyo_tower\t🗼\ntomato\t🍅\ntonga\t🇹🇴\ntongue\t👅\ntoolbox\t🧰\ntooth\t🦷\ntop\t🔝\ntop_arrow\t🔝\ntop_hat\t🎩\ntophat\t🎩\ntornado\t🌪\ntrackball\t🖲\ntractor\t🚜\ntrade_mark\t™\ntraffic_light\t🚥\ntrain\t🚋\ntrain2\t🚆\ntram\t🚊\ntram_car\t🚋\ntriangular_flag\t🚩\ntriangular_flag_on_post\t🚩\ntriangular_ruler\t📐\ntrident\t🔱\ntrident_emblem\t🔱\ntrinidad_&_tobago\t🇹🇹\ntristan_da_cunha\t🇹🇦\ntriumph\t😤\ntrolleybus\t🚎\ntrophy\t🏆\ntropical_drink\t🍹\ntropical_fish\t🐠\ntruck\t🚚\ntrumpet\t🎺\ntshirt\t👕\ntulip\t🌷\ntumbler_glass\t🥃\ntunisia\t🇹🇳\nturkey\t🦃\nturkmenistan\t🇹🇲\nturks_&_caicos_islands\t🇹🇨\nturtle\t🐢\ntuvalu\t🇹🇻\ntv\t📺\ntwelve-thirty\t🕧\ntwelve_o’clock\t🕛\ntwisted_rightwards_arrows\t🔀\ntwo\t2️⃣\ntwo-hump_camel\t🐫\ntwo-thirty\t🕝\n",
    "two_hearts\t💕\ntwo_men_holding_hands\t👬\ntwo_o’clock\t🕑\ntwo_women_holding_hands\t👭\nu.s._outlying_islands\t🇺🇲\nu.s._virgin_islands\t🇻🇮\nu5272\t🈹\nu5408\t🈴\nu55b6\t🈺\nu6307\t🈯\nu6708\t🈷\nu6709\t🈶\nu6e80\t🈵\nu7121\t🈚\nu7533\t🈸\nu7981\t🈲\nu7a7a\t🈳\nuganda\t🇺🇬\nukraine\t🇺🇦\numbrella\t☂\numbrella_on_ground\t⛱\numbrella_with_rain_drops\t☔\nunamused\t😒\nunamused_face\t😒\nunderage\t🔞\nunicorn_face\t🦄\nunited_arab_emirates\t🇦🇪\nunited_kingdom\t🇬🇧\nunited_nations\t🇺🇳\nunited_states\t🇺🇸\nunlock\t🔓\nunlocked\t🔓\nup\t🆙\nup!_button\t🆙\nup-down_arrow\t↕\nup-left_arrow\t↖\nup-right_arrow\t↗\nup_arrow\t⬆\nupside-down_face\t🙃\nupside__down_face\t🙃\nupwards_button\t🔼\nuruguay\t🇺🇾\nuzbekistan\t🇺🇿\nv\t✌\nvampire\t🧛\nvampire_dark_skin_tone\t🧛🏿\nvampire_light_skin_tone\t🧛🏻\nvampire_medium-dark_skin_tone\t🧛🏾\nvampire_medium-light_skin_tone\t🧛🏼\nvampire_medium_skin_tone\t🧛🏽\nvanuatu\t🇻🇺\nvatican_city\t🇻🇦\nvenezuela\t🇻🇪\nvertical_traffic_light\t🚦\nvhs\t📼\nvibration_mode\t📳\nvictory_hand\t✌\nvictory_hand_dark_skin_tone\t✌🏿\nvictory_hand_light_skin_tone\t✌🏻\nvictory_hand_medium-dark_skin_tone\t✌🏾\n",
    "victory_hand_medium-light_skin_tone\t✌🏼\nvictory_hand_medium_skin_tone\t✌🏽\nvideo_camera\t📹\nvideo_game\t🎮\nvideocassette\t📼\nvietnam\t🇻🇳\nviolin\t🎻\nvirgo\t♍\nvolcano\t🌋\nvolleyball\t🏐\nvs\t🆚\nvs_button\t🆚\nvulcan_salute\t🖖\nvulcan_salute_dark_skin_tone\t🖖🏿\nvulcan_salute_light_skin_tone\t🖖🏻\nvulcan_salute_medium-dark_skin_tone\t🖖🏾\nvulcan_salute_medium-light_skin_tone\t🖖🏼\nvulcan_salute_medium_skin_tone\t🖖🏽\nwaffle\t🧇\nwales\t🏴󠁧󠁢󠁷󠁬󠁳󠁿\nwalking\t🚶\nwallis_&_futuna\t🇼🇫\nwaning_crescent_moon\t🌘\nwaning_gibbous_moon\t🌖\nwarning\t⚠\nwastebasket\t🗑\nwatch\t⌚\nwater_buffalo\t🐃\nwater_closet\t🚾\nwater_wave\t🌊\nwatermelon\t🍉\nwave\t👋\nwaving_black_flag\t🏴\nwaving_hand\t👋\nwaving_hand_dark_skin_tone\t👋🏿\nwaving_hand_light_skin_tone\t👋🏻\nwaving_hand_medium-dark_skin_tone\t👋🏾\nwaving_hand_medium-light_skin_tone\t👋🏼\nwaving_hand_medium_skin_tone\t👋🏽\nwaving_white_flag\t🏳\nwavy_dash\t〰\nwaxing_crescent_moon\t🌒\nwaxing_gibbous_moon\t🌔\nwc\t🚾\nweary\t😩\nweary_cat_face\t🙀\nweary_face\t😩\nwedding\t💒\nweight_lifter\t🏋\nwestern_sahara\t🇪🇭\nwhale\t🐳\nwhale2\t🐋\nwheel_of_dharma\t☸\nwheelchair\t♿\n",
    "wheelchair_symbol\t♿\nwhite-haired_man\t👨‍🦳\nwhite-haired_woman\t👩‍🦳\nwhite_check_mark\t✅\nwhite_circle\t⚪\nwhite_exclamation_mark\t❕\nwhite_flag\t🏳\nwhite_flower\t💮\nwhite_frowning_face\t☹\nwhite_hair\t🦳\nwhite_heart\t🤍\nwhite_heavy_check_mark\t✅\nwhite_large_square\t⬜\nwhite_medium-small_square\t◽\nwhite_medium_small_square\t◽\nwhite_medium_square\t◻\nwhite_medium_star\t⭐\nwhite_question_mark\t❔\nwhite_small_square\t▫\nwhite_square_button\t🔳\nwhite_sun_behind_cloud\t🌥\nwhite_sun_behind_cloud_with_rain\t🌦\nwhite_sun_with_small_cloud\t🌤\nwilted_flower\t🥀\nwind_blowing_face\t🌬\nwind_chime\t🎐\nwind_face\t🌬\nwine_glass\t🍷\nwink\t😉\nwinking_face\t😉\nwinking_face_with_tongue\t😜\nwolf\t🐺\nwolf_face\t🐺\nwoman\t👩\nwoman_artist\t👩‍🎨\nwoman_artist_dark_skin_tone\t👩🏿‍🎨\nwoman_artist_light_skin_tone\t👩🏻‍🎨\nwoman_artist_medium-dark_skin_tone\t👩🏾‍🎨\nwoman_artist_medium-light_skin_tone\t👩🏼‍🎨\nwoman_artist_medium_skin_tone\t👩🏽‍🎨\nwoman_astronaut\t👩‍🚀\nwoman_astronaut_dark_skin_tone\t👩🏿‍🚀\nwoman_astronaut_light_skin_tone\t👩🏻‍🚀\nwoman_astronaut_medium-dark_skin_tone\t👩🏾‍🚀\n",
    "woman_astronaut_medium-light_skin_tone\t👩🏼‍🚀\nwoman_astronaut_medium_skin_tone\t👩🏽‍🚀\nwoman_biking\t🚴‍♀️\nwoman_biking_dark_skin_tone\t🚴🏿‍♀️\nwoman_biking_light_skin_tone\t🚴🏻‍♀️\nwoman_biking_medium-dark_skin_tone\t🚴🏾‍♀️\nwoman_biking_medium-light_skin_tone\t🚴🏼‍♀️\nwoman_biking_medium_skin_tone\t🚴🏽‍♀️\nwoman_bouncing_ball\t⛹️‍♀️\nwoman_bouncing_ball_dark_skin_tone\t⛹🏿‍♀️\nwoman_bouncing_ball_light_skin_tone\t⛹🏻‍♀️\nwoman_bouncing_ball_medium-dark_skin_tone\t⛹🏾‍♀️\nwoman_bouncing_ball_medium-light_skin_tone\t⛹🏼‍♀️\nwoman_bouncing_ball_medium_skin_tone\t⛹🏽‍♀️\nwoman_bowing\t🙇‍♀️\nwoman_bowing_dark_skin_tone\t🙇🏿‍♀️\nwoman_bowing_light_skin_tone\t🙇🏻‍♀️\nwoman_bowing_medium-dark_skin_tone\t🙇🏾‍♀️\nwoman_bowing_medium-light_skin_tone\t🙇🏼‍♀️\nwoman_bowing_medium_skin_tone\t🙇🏽‍♀️\nwoman_cartwheeling\t🤸‍♀️\nwoman_cartwheeling_dark_skin_tone\t🤸🏿‍♀️\nwoman_cartwheeling_light_skin_tone\t🤸🏻‍♀️\nwoman_cartwheeling_medium-dark_skin_tone\t🤸🏾‍♀️\nwoman_cartwheeling_medium-light_skin_tone\t🤸🏼‍♀️\nwoman_cartwheeling_medium_skin_tone\t🤸🏽‍♀️\n",
    "woman_climbing\t🧗‍♀️\nwoman_climbing_dark_skin_tone\t🧗🏿‍♀️\nwoman_climbing_light_skin_tone\t🧗🏻‍♀️\nwoman_climbing_medium-dark_skin_tone\t🧗🏾‍♀️\nwoman_climbing_medium-light_skin_tone\t🧗🏼‍♀️\nwoman_climbing_medium_skin_tone\t🧗🏽‍♀️\nwoman_construction_worker\t👷‍♀️\nwoman_construction_worker_dark_skin_tone\t👷🏿‍♀️\nwoman_construction_worker_light_skin_tone\t👷🏻‍♀️\nwoman_construction_worker_medium-dark_skin_tone\t👷🏾‍♀️\nwoman_construction_worker_medium-light_skin_tone\t👷🏼‍♀️\nwoman_construction_worker_medium_skin_tone\t👷🏽‍♀️\nwoman_cook\t👩‍🍳\nwoman_cook_dark_skin_tone\t👩🏿‍🍳\nwoman_cook_light_skin_tone\t👩🏻‍🍳\nwoman_cook_medium-dark_skin_tone\t👩🏾‍🍳\nwoman_cook_medium-light_skin_tone\t👩🏼‍🍳\nwoman_cook_medium_skin_tone\t👩🏽‍🍳\nwoman_dancing\t💃\nwoman_dancing_dark_skin_tone\t💃🏿\nwoman_dancing_light_skin_tone\t💃🏻\nwoman_dancing_medium-dark_skin_tone\t💃🏾\nwoman_dancing_medium-light_skin_tone\t💃🏼\nwoman_dancing_medium_skin_tone\t💃🏽\nwoman_dark_skin_tone\t👩🏿\nwoman_detective\t🕵️‍♀️\nwoman_detective_dark_skin_tone\t🕵🏿‍♀️\n",
    "woman_detective_light_skin_tone\t🕵🏻‍♀️\nwoman_detective_medium-dark_skin_tone\t🕵🏾‍♀️\nwoman_detective_medium-light_skin_tone\t🕵🏼‍♀️\nwoman_detective_medium_skin_tone\t🕵🏽‍♀️\nwoman_elf\t🧝‍♀️\nwoman_elf_dark_skin_tone\t🧝🏿‍♀️\nwoman_elf_light_skin_tone\t🧝🏻‍♀️\nwoman_elf_medium-dark_skin_tone\t🧝🏾‍♀️\nwoman_elf_medium-light_skin_tone\t🧝🏼‍♀️\nwoman_elf_medium_skin_tone\t🧝🏽‍♀️\nwoman_facepalming\t🤦‍♀️\nwoman_facepalming_dark_skin_tone\t🤦🏿‍♀️\nwoman_facepalming_light_skin_tone\t🤦🏻‍♀️\nwoman_facepalming_medium-dark_skin_tone\t🤦🏾‍♀️\nwoman_facepalming_medium-light_skin_tone\t🤦🏼‍♀️\nwoman_facepalming_medium_skin_tone\t🤦🏽‍♀️\nwoman_factory_worker\t👩‍🏭\nwoman_factory_worker_dark_skin_tone\t👩🏿‍🏭\nwoman_factory_worker_light_skin_tone\t👩🏻‍🏭\nwoman_factory_worker_medium-dark_skin_tone\t👩🏾‍🏭\nwoman_factory_worker_medium-light_skin_tone\t👩🏼‍🏭\nwoman_factory_worker_medium_skin_tone\t👩🏽‍🏭\nwoman_fairy\t🧚‍♀️\nwoman_fairy_dark_skin_tone\t🧚🏿‍♀️\nwoman_fairy_light_skin_tone\t🧚🏻‍♀️\nwoman_fairy_medium-dark_skin_tone\t🧚🏾‍♀️\n",
    "woman_fairy_medium-light_skin_tone\t🧚🏼‍♀️\nwoman_fairy_medium_skin_tone\t🧚🏽‍♀️\nwoman_farmer\t👩‍🌾\nwoman_farmer_dark_skin_tone\t👩🏿‍🌾\nwoman_farmer_light_skin_tone\t👩🏻‍🌾\nwoman_farmer_medium-dark_skin_tone\t👩🏾‍🌾\nwoman_farmer_medium-light_skin_tone\t👩🏼‍🌾\nwoman_farmer_medium_skin_tone\t👩🏽‍🌾\nwoman_firefighter\t👩‍🚒\nwoman_firefighter_dark_skin_tone\t👩🏿‍🚒\nwoman_firefighter_light_skin_tone\t👩🏻‍🚒\nwoman_firefighter_medium-dark_skin_tone\t👩🏾‍🚒\nwoman_firefighter_medium-light_skin_tone\t👩🏼‍🚒\nwoman_firefighter_medium_skin_tone\t👩🏽‍🚒\nwoman_frowning\t🙍‍♀️\nwoman_frowning_dark_skin_tone\t🙍🏿‍♀️\nwoman_frowning_light_skin_tone\t🙍🏻‍♀️\nwoman_frowning_medium-dark_skin_tone\t🙍🏾‍♀️\nwoman_frowning_medium-light_skin_tone\t🙍🏼‍♀️\nwoman_frowning_medium_skin_tone\t🙍🏽‍♀️\nwoman_genie\t🧞‍♀️\nwoman_gesturing_no\t🙅‍♀️\nwoman_gesturing_no_dark_skin_tone\t🙅🏿‍♀️\nwoman_gesturing_no_light_skin_tone\t🙅🏻‍♀️\nwoman_gesturing_no_medium-dark_skin_tone\t🙅🏾‍♀️\nwoman_gesturing_no_medium-light_skin_tone\t🙅🏼‍♀️\nwoman_gesturing_no_medium_skin_tone\t🙅🏽‍♀️\n",
    "woman_gesturing_ok\t🙆‍♀️\nwoman_gesturing_ok_dark_skin_tone\t🙆🏿‍♀️\nwoman_gesturing_ok_light_skin_tone\t🙆🏻‍♀️\nwoman_gesturing_ok_medium-dark_skin_tone\t🙆🏾‍♀️\nwoman_gesturing_ok_medium-light_skin_tone\t🙆🏼‍♀️\nwoman_gesturing_ok_medium_skin_tone\t🙆🏽‍♀️\nwoman_getting_haircut\t💇‍♀️\nwoman_getting_haircut_dark_skin_tone\t💇🏿‍♀️\nwoman_getting_haircut_light_skin_tone\t💇🏻‍♀️\nwoman_getting_haircut_medium-dark_skin_tone\t💇🏾‍♀️\nwoman_getting_haircut_medium-light_skin_tone\t💇🏼‍♀️\nwoman_getting_haircut_medium_skin_tone\t💇🏽‍♀️\nwoman_getting_massage\t💆‍♀️\nwoman_getting_massage_dark_skin_tone\t💆🏿‍♀️\nwoman_getting_massage_light_skin_tone\t💆🏻‍♀️\nwoman_getting_massage_medium-dark_skin_tone\t💆🏾‍♀️\nwoman_getting_massage_medium-light_skin_tone\t💆🏼‍♀️\nwoman_getting_massage_medium_skin_tone\t💆🏽‍♀️\nwoman_golfing\t🏌️‍♀️\nwoman_golfing_dark_skin_tone\t🏌🏿‍♀️\nwoman_golfing_light_skin_tone\t🏌🏻‍♀️\nwoman_golfing_medium-dark_skin_tone\t🏌🏾‍♀️\nwoman_golfing_medium-light_skin_tone\t🏌🏼‍♀️\nwoman_golfing_medium_skin_tone\t🏌🏽‍♀️\nwoman_guard\t💂‍♀️\n",
    "woman_guard_dark_skin_tone\t💂🏿‍♀️\nwoman_guard_light_skin_tone\t💂🏻‍♀️\nwoman_guard_medium-dark_skin_tone\t💂🏾‍♀️\nwoman_guard_medium-light_skin_tone\t💂🏼‍♀️\nwoman_guard_medium_skin_tone\t💂🏽‍♀️\nwoman_health_worker\t👩‍⚕️\nwoman_health_worker_dark_skin_tone\t👩🏿‍⚕️\nwoman_health_worker_light_skin_tone\t👩🏻‍⚕️\nwoman_health_worker_medium-dark_skin_tone\t👩🏾‍⚕️\nwoman_health_worker_medium-light_skin_tone\t👩🏼‍⚕️\nwoman_health_worker_medium_skin_tone\t👩🏽‍⚕️\nwoman_in_lotus_position\t🧘‍♀️\nwoman_in_lotus_position_dark_skin_tone\t🧘🏿‍♀️\nwoman_in_lotus_position_light_skin_tone\t🧘🏻‍♀️\nwoman_in_lotus_position_medium-dark_skin_tone\t🧘🏾‍♀️\nwoman_in_lotus_position_medium-light_skin_tone\t🧘🏼‍♀️\nwoman_in_lotus_position_medium_skin_tone\t🧘🏽‍♀️\nwoman_in_manual_wheelchair\t👩‍🦽\nwoman_in_motorized_wheelchair\t👩‍🦼\nwoman_in_steamy_room\t🧖‍♀️\nwoman_in_steamy_room_dark_skin_tone\t🧖🏿‍♀️\nwoman_in_steamy_room_light_skin_tone\t🧖🏻‍♀️\nwoman_in_steamy_room_medium-dark_skin_tone\t🧖🏾‍♀️\nwoman_in_steamy_room_medium-light_skin_tone\t🧖🏼‍♀️\n",
    "woman_in_steamy_room_medium_skin_tone\t🧖🏽‍♀️\nwoman_judge\t👩‍⚖️\nwoman_judge_dark_skin_tone\t👩🏿‍⚖️\nwoman_judge_light_skin_tone\t👩🏻‍⚖️\nwoman_judge_medium-dark_skin_tone\t👩🏾‍⚖️\nwoman_judge_medium-light_skin_tone\t👩🏼‍⚖️\nwoman_judge_medium_skin_tone\t👩🏽‍⚖️\nwoman_juggling\t🤹‍♀️\nwoman_juggling_dark_skin_tone\t🤹🏿‍♀️\nwoman_juggling_light_skin_tone\t🤹🏻‍♀️\nwoman_juggling_medium-dark_skin_tone\t🤹🏾‍♀️\nwoman_juggling_medium-light_skin_tone\t🤹🏼‍♀️\nwoman_juggling_medium_skin_tone\t🤹🏽‍♀️\nwoman_lifting_weights\t🏋️‍♀️\nwoman_lifting_weights_dark_skin_tone\t🏋🏿‍♀️\nwoman_lifting_weights_light_skin_tone\t🏋🏻‍♀️\nwoman_lifting_weights_medium-dark_skin_tone\t🏋🏾‍♀️\nwoman_lifting_weights_medium-light_skin_tone\t🏋🏼‍♀️\nwoman_lifting_weights_medium_skin_tone\t🏋🏽‍♀️\nwoman_light_skin_tone\t👩🏻\nwoman_mage\t🧙‍♀️\nwoman_mage_dark_skin_tone\t🧙🏿‍♀️\nwoman_mage_light_skin_tone\t🧙🏻‍♀️\nwoman_mage_medium-dark_skin_tone\t🧙🏾‍♀️\nwoman_mage_medium-light_skin_tone\t🧙🏼‍♀️\nwoman_mage_medium_skin_tone\t🧙🏽‍♀️\nwoman_mechanic\t👩‍🔧\nwoman_mechanic_dark_skin_tone\t👩🏿‍🔧\n",
    "woman_mechanic_light_skin_tone\t👩🏻‍🔧\nwoman_mechanic_medium-dark_skin_tone\t👩🏾‍🔧\nwoman_mechanic_medium-light_skin_tone\t👩🏼‍🔧\nwoman_mechanic_medium_skin_tone\t👩🏽‍🔧\nwoman_medium-dark_skin_tone\t👩🏾\nwoman_medium-light_skin_tone\t👩🏼\nwoman_medium_skin_tone\t👩🏽\nwoman_mountain_biking\t🚵‍♀️\nwoman_mountain_biking_dark_skin_tone\t🚵🏿‍♀️\nwoman_mountain_biking_light_skin_tone\t🚵🏻‍♀️\nwoman_mountain_biking_medium-dark_skin_tone\t🚵🏾‍♀️\nwoman_mountain_biking_medium-light_skin_tone\t🚵🏼‍♀️\nwoman_mountain_biking_medium_skin_tone\t🚵🏽‍♀️\nwoman_office_worker\t👩‍💼\nwoman_office_worker_dark_skin_tone\t👩🏿‍💼\nwoman_office_worker_light_skin_tone\t👩🏻‍💼\nwoman_office_worker_medium-dark_skin_tone\t👩🏾‍💼\nwoman_office_worker_medium-light_skin_tone\t👩🏼‍💼\nwoman_office_worker_medium_skin_tone\t👩🏽‍💼\nwoman_pilot\t👩‍✈️\nwoman_pilot_dark_skin_tone\t👩🏿‍✈️\nwoman_pilot_light_skin_tone\t👩🏻‍✈️\nwoman_pilot_medium-dark_skin_tone\t👩🏾‍✈️\nwoman_pilot_medium-light_skin_tone\t👩🏼‍✈️\nwoman_pilot_medium_skin_tone\t👩🏽‍✈️\nwoman_playing_handball\t🤾‍♀️\n",
    "woman_playing_handball_dark_skin_tone\t🤾🏿‍♀️\nwoman_playing_handball_light_skin_tone\t🤾🏻‍♀️\nwoman_playing_handball_medium-dark_skin_tone\t🤾🏾‍♀️\nwoman_playing_handball_medium-light_skin_tone\t🤾🏼‍♀️\nwoman_playing_handball_medium_skin_tone\t🤾🏽‍♀️\nwoman_playing_water_polo\t🤽‍♀️\nwoman_playing_water_polo_dark_skin_tone\t🤽🏿‍♀️\nwoman_playing_water_polo_light_skin_tone\t🤽🏻‍♀️\nwoman_playing_water_polo_medium-dark_skin_tone\t🤽🏾‍♀️\nwoman_playing_water_polo_medium-light_skin_tone\t🤽🏼‍♀️\nwoman_playing_water_polo_medium_skin_tone\t🤽🏽‍♀️\nwoman_police_officer\t👮‍♀️\nwoman_police_officer_dark_skin_tone\t👮🏿‍♀️\nwoman_police_officer_light_skin_tone\t👮🏻‍♀️\nwoman_police_officer_medium-dark_skin_tone\t👮🏾‍♀️\nwoman_police_officer_medium-light_skin_tone\t👮🏼‍♀️\nwoman_police_officer_medium_skin_tone\t👮🏽‍♀️\nwoman_pouting\t🙎‍♀️\nwoman_pouting_dark_skin_tone\t🙎🏿‍♀️\nwoman_pouting_light_skin_tone\t🙎🏻‍♀️\nwoman_pouting_medium-dark_skin_tone\t🙎🏾‍♀️\nwoman_pouting_medium-light_skin_tone\t🙎🏼‍♀️\nwoman_pouting_medium_skin_tone\t🙎🏽‍♀️\n",
    "woman_raising_hand\t🙋‍♀️\nwoman_raising_hand_dark_skin_tone\t🙋🏿‍♀️\nwoman_raising_hand_light_skin_tone\t🙋🏻‍♀️\nwoman_raising_hand_medium-dark_skin_tone\t🙋🏾‍♀️\nwoman_raising_hand_medium-light_skin_tone\t🙋🏼‍♀️\nwoman_raising_hand_medium_skin_tone\t🙋🏽‍♀️\nwoman_rowing_boat\t🚣‍♀️\nwoman_rowing_boat_dark_skin_tone\t🚣🏿‍♀️\nwoman_rowing_boat_light_skin_tone\t🚣🏻‍♀️\nwoman_rowing_boat_medium-dark_skin_tone\t🚣🏾‍♀️\nwoman_rowing_boat_medium-light_skin_tone\t🚣🏼‍♀️\nwoman_rowing_boat_medium_skin_tone\t🚣🏽‍♀️\nwoman_running\t🏃‍♀️\nwoman_running_dark_skin_tone\t🏃🏿‍♀️\nwoman_running_light_skin_tone\t🏃🏻‍♀️\nwoman_running_medium-dark_skin_tone\t🏃🏾‍♀️\nwoman_running_medium-light_skin_tone\t🏃🏼‍♀️\nwoman_running_medium_skin_tone\t🏃🏽‍♀️\nwoman_scientist\t👩‍🔬\nwoman_scientist_dark_skin_tone\t👩🏿‍🔬\nwoman_scientist_light_skin_tone\t👩🏻‍🔬\nwoman_scientist_medium-dark_skin_tone\t👩🏾‍🔬\nwoman_scientist_medium-light_skin_tone\t👩🏼‍🔬\nwoman_scientist_medium_skin_tone\t👩🏽‍🔬\nwoman_shrugging\t🤷‍♀️\nwoman_shrugging_dark_skin_tone\t🤷🏿‍♀️\n",
    "woman_shrugging_light_skin_tone\t🤷🏻‍♀️\nwoman_shrugging_medium-dark_skin_tone\t🤷🏾‍♀️\nwoman_shrugging_medium-light_skin_tone\t🤷🏼‍♀️\nwoman_shrugging_medium_skin_tone\t🤷🏽‍♀️\nwoman_singer\t👩‍🎤\nwoman_singer_dark_skin_tone\t👩🏿‍🎤\nwoman_singer_light_skin_tone\t👩🏻‍🎤\nwoman_singer_medium-dark_skin_tone\t👩🏾‍🎤\nwoman_singer_medium-light_skin_tone\t👩🏼‍🎤\nwoman_singer_medium_skin_tone\t👩🏽‍🎤\nwoman_student\t👩‍🎓\nwoman_student_dark_skin_tone\t👩🏿‍🎓\nwoman_student_light_skin_tone\t👩🏻‍🎓\nwoman_student_medium-dark_skin_tone\t👩🏾‍🎓\nwoman_student_medium-light_skin_tone\t👩🏼‍🎓\nwoman_student_medium_skin_tone\t👩🏽‍🎓\nwoman_surfing\t🏄‍♀️\nwoman_surfing_dark_skin_tone\t🏄🏿‍♀️\nwoman_surfing_light_skin_tone\t🏄🏻‍♀️\nwoman_surfing_medium-dark_skin_tone\t🏄🏾‍♀️\nwoman_surfing_medium-light_skin_tone\t🏄🏼‍♀️\nwoman_surfing_medium_skin_tone\t🏄🏽‍♀️\nwoman_swimming\t🏊‍♀️\nwoman_swimming_dark_skin_tone\t🏊🏿‍♀️\nwoman_swimming_light_skin_tone\t🏊🏻‍♀️\nwoman_swimming_medium-dark_skin_tone\t🏊🏾‍♀️\nwoman_swimming_medium-light_skin_tone\t🏊🏼‍♀️\n",
    "woman_swimming_medium_skin_tone\t🏊🏽‍♀️\nwoman_teacher\t👩‍🏫\nwoman_teacher_dark_skin_tone\t👩🏿‍🏫\nwoman_teacher_light_skin_tone\t👩🏻‍🏫\nwoman_teacher_medium-dark_skin_tone\t👩🏾‍🏫\nwoman_teacher_medium-light_skin_tone\t👩🏼‍🏫\nwoman_teacher_medium_skin_tone\t👩🏽‍🏫\nwoman_technologist\t👩‍💻\nwoman_technologist_dark_skin_tone\t👩🏿‍💻\nwoman_technologist_light_skin_tone\t👩🏻‍💻\nwoman_technologist_medium-dark_skin_tone\t👩🏾‍💻\nwoman_technologist_medium-light_skin_tone\t👩🏼‍💻\nwoman_technologist_medium_skin_tone\t👩🏽‍💻\nwoman_tipping_hand\t💁‍♀️\nwoman_tipping_hand_dark_skin_tone\t💁🏿‍♀️\nwoman_tipping_hand_light_skin_tone\t💁🏻‍♀️\nwoman_tipping_hand_medium-dark_skin_tone\t💁🏾‍♀️\nwoman_tipping_hand_medium-light_skin_tone\t💁🏼‍♀️\nwoman_tipping_hand_medium_skin_tone\t💁🏽‍♀️\nwoman_vampire\t🧛‍♀️\nwoman_vampire_dark_skin_tone\t🧛🏿‍♀️\nwoman_vampire_light_skin_tone\t🧛🏻‍♀️\nwoman_vampire_medium-dark_skin_tone\t🧛🏾‍♀️\nwoman_vampire_medium-light_skin_tone\t🧛🏼‍♀️\nwoman_vampire_medium_skin_tone\t🧛🏽‍♀️\nwoman_walking\t🚶‍♀️\nwoman_walking_dark_skin_tone\t🚶🏿‍♀️\n",
    "woman_walking_light_skin_tone\t🚶🏻‍♀️\nwoman_walking_medium-dark_skin_tone\t🚶🏾‍♀️\nwoman_walking_medium-light_skin_tone\t🚶🏼‍♀️\nwoman_walking_medium_skin_tone\t🚶🏽‍♀️\nwoman_wearing_turban\t👳‍♀️\nwoman_wearing_turban_dark_skin_tone\t👳🏿‍♀️\nwoman_wearing_turban_light_skin_tone\t👳🏻‍♀️\nwoman_wearing_turban_medium-dark_skin_tone\t👳🏾‍♀️\nwoman_wearing_turban_medium-light_skin_tone\t👳🏼‍♀️\nwoman_wearing_turban_medium_skin_tone\t👳🏽‍♀️\nwoman_with_headscarf\t🧕\nwoman_with_headscarf_dark_skin_tone\t🧕🏿\nwoman_with_headscarf_light_skin_tone\t🧕🏻\nwoman_with_headscarf_medium-dark_skin_tone\t🧕🏾\nwoman_with_headscarf_medium-light_skin_tone\t🧕🏼\nwoman_with_headscarf_medium_skin_tone\t🧕🏽\nwoman_with_probing_cane\t👩‍🦯\nwoman_zombie\t🧟‍♀️\nwomans_clothes\t👚\nwomans_hat\t👒\nwoman’s_boot\t👢\nwoman’s_clothes\t👚\nwoman’s_hat\t👒\nwoman’s_sandal\t👡\nwomen_with_bunny_ears\t👯‍♀️\nwomen_wrestling\t🤼‍♀️\nwomens\t🚺\nwomen’s_room\t🚺\nwoozy_face\t🥴\nworld_map\t🗺\nworried\t😟\nworried_face\t😟\nwrapped_gift\t🎁\nwrench\t🔧\nwriting_hand\t✍\nwriting_hand_dark_skin_tone\t✍🏿\n",
    "writing_hand_light_skin_tone\t✍🏻\nwriting_hand_medium-dark_skin_tone\t✍🏾\nwriting_hand_medium-light_skin_tone\t✍🏼\nwriting_hand_medium_skin_tone\t✍🏽\nx\t❌\nyarn\t🧶\nyawning_face\t🥱\nyellow_circle\t🟡\nyellow_heart\t💛\nyellow_square\t🟨\nyemen\t🇾🇪\nyen\t💴\nyen_banknote\t💴\nyin_yang\t☯\nyo-yo\t🪀\nyum\t😋\nzambia\t🇿🇲\nzany_face\t🤪\nzap\t⚡\nzebra\t🦓\nzero\t0️⃣\nzimbabwe\t🇿🇼\nzipper-mouth_face\t🤐\nzipper__mouth_face\t🤐\nzombie\t🧟\nzzz\t💤\nåland_islands\t🇦🇽\n"]

def emojiTable : Array (String × String) :=
  ((emojiListing.splitOn "\n").filterMap fun line =>
    match line.splitOn "\t" with
    | [name, glyph] => some (name, glyph)
    | _ => none).toArray

def emojiIn (name : String) (lo hi : Nat) : Option String :=
  if lo < hi then
    let mid := (lo + hi) / 2
    match emojiTable[mid]? with
    | some (k, v) =>
      if name < k then emojiIn name lo mid
      else if k < name then emojiIn name (mid + 1) hi
      else some v
    | none => none
  else none
termination_by hi - lo

/-- The emoji a code names, its name read in lower case. -/
def emojiNamed? (name : String) : Option String :=
  emojiIn (ClassAtlas.Text.lower name) 0 emojiTable.size

end ClassAtlas.Display
